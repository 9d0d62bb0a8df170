import Rehearsal.Value
/-!
The ledger of a run: one record for every screenshot that was taken, in order.
-/
namespace Rehearsal

structure Record where
  /-- What the run had just done. -/
  step : String
  action : Option String := none
  fileName : String
  timestamp : String
  /-- What the action was about; null if nothing. -/
  selector : Value := .null
  error : Option String := none

namespace Record

/-- The fields that are not null. -/
def toFields (r : Record) : List (String × Value) :=
  [("step", Value.text r.step), ("action", Value.ofOption .text r.action),
    ("filename", .text r.fileName), ("timestamp", .text r.timestamp), ("selector", r.selector),
    ("error", Value.ofOption .text r.error)].filter fun (_, v) => !(v matches .null)

end Record
end Rehearsal
