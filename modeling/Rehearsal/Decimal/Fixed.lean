import Rehearsal.Decimal.Shortest
/-!
Fixed places: a double written with a given number of places after the point, and a double rounded
to such a number. Both start from the exact value, and a half goes to the even neighbour.
-/
namespace Rehearsal.Decimal

/-- The size of the number in units of the last place. -/
def Binary.units (places : Nat) (b : Binary) : Nat :=
  let r := b.magnitude
  roundDiv (r.num * Nat.pow 10 places) r.den

/-- Writes exactly `places` digits after the point, and no point for none. -/
def fixed (places : Nat) (x : Float) : String :=
  match Shape.ofFloat x with
  | .notANumber => "nan"
  | .infinite negative => if negative then "-inf" else "inf"
  | .finite b =>
    let all := padLeft (places + 1) (digitChars (b.units places))
    let whole := all.take (all.length - places)
    let rest := all.drop (all.length - places)
    let body := if places = 0 then whole else whole ++ '.' :: rest
    String.ofList (if b.negative then '-' :: body else body)

/-- The double nearest to the number rounded to `places` places. -/
def roundTo (places : Nat) (x : Float) : Float :=
  match Shape.ofFloat x with
  | .finite b =>
    let y := Float.ofScientific (b.units places) true places
    if b.negative then -y else y
  | _ => x

/-- One eighth has a tie at two places, three eighths too. -/
example : Binary.units 2 ⟨false, 1, -3⟩ = 12 ∧ Binary.units 2 ⟨false, 3, -3⟩ = 38 := by decide

end Rehearsal.Decimal
