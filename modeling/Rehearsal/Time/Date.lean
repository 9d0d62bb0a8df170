import Rehearsal.Decimal.Shortest
/-!
Calendar dates. A day is counted from 1 January 1970; the calendar repeats every 400 years of 146097
days. Within such a cycle years are taken to begin in March, so that a leap day is a year's last.
-/
namespace Rehearsal

structure Date where
  year : Int
  month : Nat
  day : Nat
deriving Repr, DecidableEq

namespace Date

/-- Days from 1 March of year 0 to 1 January 1970. -/
def epochOffset : Int := 719468

/-- The year within a cycle of a day within it. -/
def yearOfCycle (d : Nat) : Nat := (d - d / 1460 + d / 36524 - d / 146096) / 365

/-- The date of a day. -/
def ofDays (n : Int) : Date :=
  let z := n + epochOffset
  let cycle := z.fdiv 146097
  let d := (z - cycle * 146097).toNat
  let y := yearOfCycle d
  let dayOfYear := d - (365 * y + y / 4 - y / 100)
  let m := (5 * dayOfYear + 2) / 153
  let month := if m < 10 then m + 3 else m - 9
  { year := y + cycle * 400 + (if month ≤ 2 then 1 else 0)
    month
    day := dayOfYear - (153 * m + 2) / 5 + 1 }

/-- Year, month and day with four, two and two digits, joined by hyphens. -/
def iso (d : Date) : String :=
  Decimal.padded 4 d.year.toNat ++ "-" ++ Decimal.padded 2 d.month ++ "-" ++ Decimal.padded 2 d.day

example : ofDays 0 = ⟨1970, 1, 1⟩ := by decide
example : ofDays 19783 = ⟨2024, 3, 1⟩ ∧ ofDays 11016 = ⟨2000, 2, 29⟩ := by decide
example : ofDays (-719162) = ⟨1, 1, 1⟩ ∧ ofDays 2932896 = ⟨9999, 12, 31⟩ := by decide

end Date
end Rehearsal
