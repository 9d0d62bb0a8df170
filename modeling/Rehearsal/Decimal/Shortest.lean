import Rehearsal.Decimal.Binary
/-!
The text of a double: the fewest decimal digits that read back as it, the nearest of those to its
value, an exact tie going to the even last digit. Positional from 0.0001 up to below 1e16, with at
least one digit on each side of the point; scientific elsewhere, the exponent signed and at least
two digits long.
-/
namespace Rehearsal.Decimal

/-- The number `digits * 10 ^ exponent`. -/
structure Tens where
  digits : Nat
  exponent : Int
deriving Repr, DecidableEq

/-- Is `num / den` at least `10 ^ p`? -/
def reachesTen (r : Ratio) (p : Int) : Bool :=
  if 0 ≤ p then Nat.pow 10 p.toNat * r.den ≤ r.num else r.den ≤ r.num * Nat.pow 10 (-p).toNat

/-- The power of ten of the leading digit, from an estimate that is off by at most one. -/
def leadingTen (b : Binary) : Int :=
  let guess := ((Nat.log2 b.mantissa : Int) + b.exponent) * 30103 / 100000
  let r := b.magnitude
  if reachesTen r (guess + 1) then guess + 1 else if reachesTen r guess then guess else guess - 1

/-- Compares `num / den` with `n * 10 ^ k`. -/
def compareTens (r : Ratio) (n : Nat) (k : Int) : Ordering :=
  if 0 ≤ k then compare r.num (n * Nat.pow 10 k.toNat * r.den)
  else compare (r.num * Nat.pow 10 (-k).toNat) (n * r.den)

/-- The reals that round to the double: its neighbours' midpoints, which belong to it exactly when
its mantissa is even. -/
structure Basin where
  low : Ratio
  high : Ratio
  closed : Bool

/-- Below a power of two the neighbour is half as far. -/
def Binary.basin (b : Binary) : Basin :=
  let quarter (n : Nat) : Ratio := Binary.magnitude ⟨false, n, b.exponent - 2⟩
  let below := if b.mantissa = Nat.pow 2 52 ∧ -1074 < b.exponent then 1 else 2
  ⟨quarter (4 * b.mantissa - below), quarter (4 * b.mantissa + 2), b.mantissa % 2 = 0⟩

def Basin.holds (i : Basin) (n : Nat) (k : Int) : Bool :=
  let low := compareTens i.low n k
  let high := compareTens i.high n k
  (low == .lt || (i.closed && low == .eq)) && (high == .gt || (i.closed && high == .eq))

/-- The nearest point of the grid of multiples of `10 ^ k` in the basin, if one is in it. -/
def nearestOn (b : Binary) (i : Basin) (k : Int) : Option Tens :=
  let r := b.magnitude
  let down := if 0 ≤ k then r.num / (Nat.pow 10 k.toNat * r.den)
    else r.num * Nat.pow 10 (-k).toNat / r.den
  let up := down + 1
  match i.holds down k, i.holds up k with
  | false, false => none
  | true, false => some ⟨down, k⟩
  | false, true => some ⟨up, k⟩
  | true, true =>
    match compareTens ⟨2 * r.num, r.den⟩ (down + up) k with
    | .lt => some ⟨down, k⟩
    | .gt => some ⟨up, k⟩
    | .eq => some ⟨if down % 2 = 0 then down else up, k⟩

/-- Tries grids from coarse to fine; seventeen digits always suffice. -/
def shortestFrom (b : Binary) (i : Basin) (top : Int) (length : Nat) : Nat → Tens
  | 0 => ⟨0, 0⟩
  | fuel + 1 =>
    match nearestOn b i (top - length + 1) with
    | some t => t
    | none => shortestFrom b i top (length + 1) fuel

/-- The fewest digits that read back, for a nonzero number. -/
def shortest (b : Binary) : Tens := shortestFrom b b.basin (leadingTen b) 1 17

def digitChars (n : Nat) : List Char := Nat.toDigits 10 n

def padLeft (width : Nat) (s : List Char) : List Char :=
  List.replicate (width - s.length) '0' ++ s

/-- Writes a whole number with at least `width` digits. -/
def padded (width : Nat) (n : Nat) : String := String.ofList (padLeft width (digitChars n))

/-- Places the decimal point; `digits` has no trailing zero. -/
def Tens.positional (t : Tens) : List Char :=
  let ds := digitChars t.digits
  if 0 ≤ t.exponent then ds ++ List.replicate t.exponent.toNat '0' ++ ['.', '0']
  else
    let after := (-t.exponent).toNat
    let all := padLeft (after + 1) ds
    all.take (all.length - after) ++ '.' :: all.drop (all.length - after)

def Tens.scientific (t : Tens) (power : Int) : List Char :=
  let ds := digitChars t.digits
  let mantissa := match ds with
    | [] => []
    | [d] => [d]
    | d :: rest => d :: '.' :: rest
  mantissa ++ 'e' :: (if power < 0 then '-' else '+') :: padLeft 2 (digitChars power.natAbs)

/-- Drops trailing zeros of the digits; `fuel` bounds their number. -/
def Tens.trimZeros (t : Tens) : Nat → Tens
  | 0 => t
  | fuel + 1 =>
    if t.digits % 10 = 0 ∧ t.digits ≠ 0 then trimZeros ⟨t.digits / 10, t.exponent + 1⟩ fuel
    else t

/-- The text of the size of a finite number. -/
def Binary.text (b : Binary) : List Char :=
  if b.mantissa = 0 then ['0', '.', '0']
  else
    let t := (shortest b).trimZeros 17
    let power := t.exponent + (digitChars t.digits).length - 1
    if -4 ≤ power ∧ power < 16 then t.positional else t.scientific power

/-- The text of a double. -/
def text (x : Float) : String :=
  match Shape.ofFloat x with
  | .notANumber => "nan"
  | .infinite negative => if negative then "-inf" else "inf"
  | .finite b => String.ofList (if b.negative then '-' :: b.text else b.text)

end Rehearsal.Decimal
