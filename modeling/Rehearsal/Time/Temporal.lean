import Rehearsal.Time.Date
/-!
Dates and times as documents hold them: a date, a time of day, or both, with or without a distance
from universal time. `Temporal.text` is the usual form; `Temporal.spelled` names the kind and lists
the parts, leaving out seconds when they and the microseconds are zero, and microseconds when they
are.
-/
namespace Rehearsal
open Decimal (padded)

structure TimeOfDay where
  hour : Nat
  minute : Nat
  second : Nat
  micros : Nat
deriving Repr, DecidableEq

inductive Temporal where
  | date (d : Date)
  | time (t : TimeOfDay)
  /-- The offset is in minutes east of universal time. -/
  | dateTime (d : Date) (t : TimeOfDay) (offset : Option Int)
deriving Repr, DecidableEq

namespace TimeOfDay

/-- Hours, minutes and seconds, and the fraction of the second unless it is zero. -/
def text (t : TimeOfDay) : String :=
  let fraction := if t.micros = 0 then "" else "." ++ padded 6 t.micros
  padded 2 t.hour ++ ":" ++ padded 2 t.minute ++ ":" ++ padded 2 t.second ++ fraction

/-- The parts that are not left out, hours and minutes first. -/
def parts (t : TimeOfDay) : List Nat :=
  [t.hour, t.minute] ++ (if t.second = 0 ∧ t.micros = 0 then [] else [t.second]) ++
    (if t.micros = 0 then [] else [t.micros])

end TimeOfDay

namespace Temporal

/-- The name of the kind. -/
def kindName : Temporal → String
  | date _ => "date"
  | time _ => "time"
  | dateTime .. => "datetime"

/-- A distance from universal time: its sign, hours and minutes. -/
def offsetText (minutes : Int) : String :=
  (if minutes < 0 then "-" else "+") ++ padded 2 (minutes.natAbs / 60) ++ ":" ++
    padded 2 (minutes.natAbs % 60)

def text : Temporal → String
  | date d => d.iso
  | time t => t.text
  | dateTime d t offset => d.iso ++ " " ++ t.text ++ (offset.map offsetText).getD ""

/-- A distance from universal time, spelled out. A distance to the west is a day back and the
seconds that remain. -/
def spelledOffset (minutes : Int) : String :=
  if minutes = 0 then "datetime.timezone.utc"
  else
    let span := if minutes < 0 then "days=-1, seconds=" ++ toString (86400 + 60 * minutes)
      else "seconds=" ++ toString (60 * minutes)
    "datetime.timezone(datetime.timedelta(" ++ span ++ "))"

/-- The arguments that spell out a date or a time. -/
def arguments : Temporal → List String
  | date d => dateArguments d
  | time t => t.parts.map toString
  | dateTime d t offset => dateArguments d ++ t.parts.map toString ++
      offset.toList.map fun minutes => "tzinfo=" ++ spelledOffset minutes
where
  dateArguments (d : Date) : List String := [toString d.year, toString d.month, toString d.day]

/-- The kind with its parts. -/
def spelled (t : Temporal) : String :=
  "datetime." ++ t.kindName ++ "(" ++ String.intercalate ", " t.arguments ++ ")"

example : TimeOfDay.parts ⟨7, 32, 0, 0⟩ = [7, 32] := by decide
example : TimeOfDay.parts ⟨7, 32, 0, 5⟩ = [7, 32, 0, 5] := by decide
example : offsetText (-210) = "-03:30" := by decide +kernel

end Temporal
end Rehearsal
