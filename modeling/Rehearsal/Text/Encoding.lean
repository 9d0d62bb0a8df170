import Rehearsal.Text.Bytes
/-!
Text in bytes of an unknown encoding. A text that starts with ASCII characters shows the size and
the order of the units of its encoding by where its first bytes are zero; without such zeros it is
UTF-8, which may have a mark of byte order in front.
-/
namespace Rehearsal.Text

inductive Encoding where
  | utf8
  | utf16 (bigEndian : Bool)
  | utf32 (bigEndian : Bool)
deriving Repr, DecidableEq

namespace Encoding

/-- The encoding of a text that starts with ASCII characters. -/
def detect : List Nat → Encoding
  | a :: b :: c :: d :: _ =>
    if a = 0 then (if b = 0 then utf32 true else utf16 true)
    else if b = 0 then (if c = 0 ∧ d = 0 then utf32 false else utf16 false)
    else utf8
  | [a, b] => if a = 0 then utf16 true else if b = 0 then utf16 false else utf8
  | _ => utf8

/-- The number that the bytes of a unit spell. -/
def unit (bigEndian : Bool) (bytes : List Nat) : Nat :=
  (if bigEndian then bytes else bytes.reverse).foldl (fun n b => 256 * n + b) 0

/-- Units of two bytes, if no byte is left over. -/
def pairs (bigEndian : Bool) : List Nat → Option (List Nat)
  | [] => some []
  | a :: b :: rest => (pairs bigEndian rest).map (unit bigEndian [a, b] :: ·)
  | _ => none

/-- Units of four bytes, if no byte is left over. -/
def quadruples (bigEndian : Bool) : List Nat → Option (List Nat)
  | [] => some []
  | a :: b :: c :: d :: rest => (quadruples bigEndian rest).map (unit bigEndian [a, b, c, d] :: ·)
  | _ => none

/-- The character with a code point; a surrogate has none of its own. -/
def character (n : Nat) : Char := if n.isValidChar then Char.ofNat n else replacement

def isHighSurrogate (n : Nat) : Bool := 0xD800 ≤ n && n < 0xDC00

def isLowSurrogate (n : Nat) : Bool := 0xDC00 ≤ n && n < 0xE000

/-- The characters of units of sixteen bits; two surrogates together make one. -/
def ofUnits : List Nat → List Char
  | n :: m :: rest =>
    if isHighSurrogate n && isLowSurrogate m then
      Char.ofNat (0x10000 + (n - 0xD800) * 1024 + (m - 0xDC00)) :: ofUnits rest
    else character n :: ofUnits (m :: rest)
  | [n] => [character n]
  | [] => []

def dropMark : List Char → List Char
  | '\ufeff' :: rest => rest
  | s => s

/-- Reads bytes; none when they are not whole units or beyond the last code point. -/
def decode? (bytes : List Nat) : Encoding → Option (List Char)
  | utf8 => some (dropMark (ofBytesFrom 0 bytes))
  | utf16 bigEndian => (pairs bigEndian bytes).map ofUnits
  | utf32 bigEndian => (quadruples bigEndian bytes).bind fun ns =>
    if ns.all (· < 0x110000) then some (ns.map character) else none

end Encoding

/-- The text that bytes spell in the encoding that they show. -/
def decode? (bytes : List Nat) : Option String :=
  ((Encoding.detect bytes).decode? bytes).map String.ofList

example : Encoding.detect [0x5B, 0, 0x5D, 0] = .utf16 false := by decide
example : (Encoding.utf16 true).decode? [0, 0x5B, 0xD8, 0x3D, 0xDE, 0] = some ['[', '😀'] := by
  decide

end Rehearsal.Text
