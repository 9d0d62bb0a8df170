/-!
Characters from bytes. Bytes are read as UTF-8; where they are not, the longest start of a character
that stands there, or else the one byte, becomes a replacement character.
-/
namespace Rehearsal.Text

/-- How many bytes follow a first byte, and between which bounds the next of them must lie. -/
def sequenceOf (first : Nat) : Option (Nat × Nat × Nat) :=
  if first < 0xC2 then none
  else if first < 0xE0 then some (1, 0x80, 0xBF)
  else if first = 0xE0 then some (2, 0xA0, 0xBF)
  else if first = 0xED then some (2, 0x80, 0x9F)
  else if first < 0xF0 then some (2, 0x80, 0xBF)
  else if first = 0xF0 then some (3, 0x90, 0xBF)
  else if first < 0xF4 then some (3, 0x80, 0xBF)
  else if first = 0xF4 then some (3, 0x80, 0x8F)
  else none

/-- The following bytes of a character, as many as fit, and the value they add up to. -/
def follow (low high : Nat) (value : Nat) : Nat → List Nat → Nat × Nat
  | 0, _ => (0, value)
  | _, [] => (0, value)
  | more + 1, b :: rest =>
    if low ≤ b ∧ b ≤ high then
      let (n, v) := follow 0x80 0xBF (64 * value + (b - 0x80)) more rest
      (n + 1, v)
    else (0, value)

def replacement : Char := '\ufffd'

/-- The character that starts with a byte, and how many of the following bytes belong to it. -/
def characterAt (first : Nat) (rest : List Nat) : Char × Nat :=
  if first < 0x80 then (Char.ofNat first, 0)
  else match sequenceOf first with
    | none => (replacement, 0)
    | some (more, low, high) =>
      let lead := first % Nat.pow 2 (6 - more)
      let (n, v) := follow low high lead more rest
      if n = more then (Char.ofNat v, n) else (replacement, n)

/-- Reads bytes as characters. The first argument counts the bytes that belong to the character
read last. -/
def ofBytesFrom : Nat → List Nat → List Char
  | _, [] => []
  | covered + 1, _ :: rest => ofBytesFrom covered rest
  | 0, b :: rest =>
    let (c, n) := characterAt b rest
    c :: ofBytesFrom n rest

def ofBytes (bytes : List Nat) : String := String.ofList (ofBytesFrom 0 bytes)

def bytesOf (s : String) : List Nat := s.toUTF8.toList.map (·.toNat)

example : ofBytesFrom 0 [0xC3, 0xA9, 0x41] = ['é', 'A'] := by decide
example : ofBytesFrom 0 [0xE0, 0x80, 0x41] = [replacement, replacement, 'A'] := by decide

end Rehearsal.Text
