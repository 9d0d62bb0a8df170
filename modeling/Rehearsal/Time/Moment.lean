import Rehearsal.Time.Date
/-!
Moments of universal time to the microsecond, in the years 1 to 9999, and the forms in which they
are written: in records, in the names of files, and in listings.
-/
namespace Rehearsal

/-- A moment of a day, `micros` microseconds after its start. -/
structure Moment where
  date : Date
  micros : Nat
deriving Repr, DecidableEq

/-- Why a clock has no calendar moment. -/
inductive ClockFault where
  | outOfRange
  | tooManyDays (days : Int)
  | beyondCounting
  | infinite
  | undefined
  | noSuchYear (year : Int)
  /-- A year that is not even counted. -/
  | uncountedYear
  /-- A number of seconds that is not even counted. -/
  | uncountedSeconds
deriving Repr, DecidableEq

def ClockFault.message : ClockFault → String
  | outOfRange => "date value out of range"
  | tooManyDays days => "days=" ++ toString days ++ "; must have magnitude <= 999999999"
  | beyondCounting => "Python int too large to convert to C int"
  | infinite => "cannot convert float infinity to integer"
  | undefined => "cannot convert float NaN to integer"
  | noSuchYear year => "year " ++ toString year ++ " is out of range"
  | uncountedYear => "[Errno 75] Value too large for defined data type"
  | uncountedSeconds => "timestamp out of range for platform time_t"

namespace Moment

def microsPerDay : Int := 86400000000

/-- The moment so many microseconds after the start of 1970. -/
def ofMicros (n : Int) : Except ClockFault Moment :=
  let days := n.fdiv microsPerDay
  if days < -719162 ∨ 2932896 < days then .error .outOfRange
  else .ok { date := .ofDays days, micros := (n - days * microsPerDay).toNat }

/-- The moment so many microseconds after the start of 1970; years out of range are named. -/
def ofStamp (n : Int) : Except ClockFault Moment :=
  match ofMicros n with
  | .ok m => .ok m
  | .error _ => .error (.noSuchYear (Date.ofDays (n.fdiv microsPerDay)).year)

/-- The moment so many seconds after the start of 1970. Seconds are counted in 64 bits and years,
from 1900 on, in 32; a year out of range is named by the number that 32 bits leave of it. -/
def ofSeconds (n : Int) : Except ClockFault Moment :=
  let year := (Date.ofDays (n.fdiv 86400)).year
  if n < -(Nat.pow 2 63 : Int) ∨ (Nat.pow 2 63 : Int) ≤ n then .error .uncountedSeconds
  else if year - 1900 < -(Nat.pow 2 31 : Int) ∨ (Nat.pow 2 31 : Int) ≤ year - 1900 then
    .error .uncountedYear
  else if year < 1 ∨ 9999 < year then .error (.noSuchYear (Int.bmod year (Nat.pow 2 32)))
  else ofMicros (n * 1000000)

/-- The moment a span of microseconds after a whole second. Spans are limited on their own. -/
def after (seconds : Int) (span : Int) : Except ClockFault Moment :=
  let days := span.fdiv microsPerDay
  if days < -2147483648 ∨ 2147483647 < days then .error .beyondCounting
  else if days < -999999999 ∨ 999999999 < days then .error (.tooManyDays days)
  else ofMicros (seconds * 1000000 + span)

def seconds (m : Moment) : Nat := m.micros / 1000000

/-- Hours, minutes and seconds with two digits each. -/
def clock (separator : String) (m : Moment) : String :=
  let s := m.seconds
  Decimal.padded 2 (s / 3600) ++ separator ++ Decimal.padded 2 (s / 60 % 60) ++ separator ++
    Decimal.padded 2 (s % 60)

/-- Date and time with the fraction of the second, which is left out when it is zero. -/
def iso (m : Moment) : String :=
  let fraction := m.micros % 1000000
  m.date.iso ++ "T" ++ m.clock ":" ++
    (if fraction = 0 then "" else "." ++ Decimal.padded 6 fraction)

/-- The form for names of files, where the year is not padded. -/
def stamp (m : Moment) : String :=
  toString m.date.year ++ "-" ++ Decimal.padded 2 m.date.month ++ "-" ++
    Decimal.padded 2 m.date.day ++ "T" ++ m.clock "-" ++ "-" ++
    Decimal.padded 6 (m.micros % 1000000)

/-- The form for listings. -/
def listed (m : Moment) : String :=
  Decimal.padded 2 m.date.day ++ "/" ++ Decimal.padded 2 m.date.month ++ "/" ++
    toString m.date.year ++ " " ++ m.clock ":"

end Moment
end Rehearsal
