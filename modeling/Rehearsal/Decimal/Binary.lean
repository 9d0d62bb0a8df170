/-!
A double taken apart: sign, whole significand and power of two. All exact decimal work starts from
this view, so it is done in natural numbers.
-/
namespace Rehearsal.Decimal

/-- The number `mantissa * 2 ^ exponent`, negated when `negative` is set. -/
structure Binary where
  negative : Bool
  mantissa : Nat
  exponent : Int
deriving Repr, DecidableEq

inductive Shape
  | finite (b : Binary)
  | infinite (negative : Bool)
  | notANumber
deriving Repr, DecidableEq

/-- Subnormals keep the exponent of the smallest normal number. -/
def Shape.ofFloat (x : Float) : Shape :=
  let bits : Nat := x.toBits.toNat
  let negative : Bool := Nat.pow 2 63 ≤ bits
  let field : Nat := bits / Nat.pow 2 52 % Nat.pow 2 11
  let fraction : Nat := bits % Nat.pow 2 52
  if field = 2047 then (if fraction = 0 then .infinite negative else .notANumber)
  else if field = 0 then .finite ⟨negative, fraction, -1074⟩
  else .finite ⟨negative, fraction + Nat.pow 2 52, (field : Int) - 1075⟩

/-- A nonnegative fraction `num / den`; `den` is a power of two or ten. -/
structure Ratio where
  num : Nat
  den : Nat

/-- The size of the number, without its sign. -/
def Binary.magnitude (b : Binary) : Ratio :=
  if 0 ≤ b.exponent then ⟨b.mantissa * Nat.pow 2 b.exponent.toNat, 1⟩
  else ⟨b.mantissa, Nat.pow 2 (-b.exponent).toNat⟩

/-- Nearest whole number; a half goes to the even neighbour. -/
def roundDiv (num den : Nat) : Nat :=
  let q := num / den
  let r := num % den
  if 2 * r < den then q else if den < 2 * r then q + 1 else q + q % 2

/-- The whole part, toward zero. -/
def Binary.truncate (b : Binary) : Int :=
  let r := b.magnitude
  let n : Int := r.num / r.den
  if b.negative then -n else n

/-- The nearest whole number; a half goes to the even neighbour. -/
def Binary.round (b : Binary) : Int :=
  let r := b.magnitude
  let n : Int := roundDiv r.num r.den
  if b.negative then -n else n

def Binary.isWhole (b : Binary) : Bool :=
  let r := b.magnitude
  r.num % r.den == 0

example : Shape.ofFloat 1.5 = .finite ⟨false, 3 * Nat.pow 2 51, -52⟩ := by decide
example : [1, 2, 3, 5, 7].map (roundDiv · 2) = [0, 1, 2, 2, 4] := by decide

end Rehearsal.Decimal
