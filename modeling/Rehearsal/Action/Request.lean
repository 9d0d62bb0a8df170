import Rehearsal.Action.Registry
import Rehearsal.Action.Payload
/-!
A request to run a playbook: a start address and a list of actions. Faults among the actions are
reported on their own, before the address is looked at.
-/
namespace Rehearsal
open Validation

structure Request where
  url : String
  actions : List Action

namespace Request

/-- A refused action, as a fault of the request. -/
def faultsOf : ParseFault → List Fault
  | .invalid faults => faults
  | f => [{ cause := .rule f.message }]

/-- The actions themselves have been read before. -/
def actionsField (fields : Fields) : Checked Unit :=
  required ["actions"] fields fun
    | .list _ => .ok ()
    | _ => .fail .notList

def readActions (fields : Fields) : Checked (List Action) :=
  match fields.lookup "actions" with
  | some (.list items) => match (Registry.standard.parseItems (items.map .raw)).1 with
    | .ok as => .ok as
    | .error f => .error (faultsOf f)
  | _ => .ok []

def ofFields (fields : Fields) : Checked Request :=
  match readActions fields with
  | .error faults => .error faults
  | .ok actions => ((required ["url"] fields addressText).keep (actionsField fields)).map
      fun url => { url, actions }

def ofValue : Value → Checked Request
  | .object fields => ofFields fields
  | _ => .fail (.notRecord "ScrapeRequest")

/-- The wire form. -/
def payload (r : Request) : Value :=
  .object [("url", .text r.url), ("actions", .list (r.actions.map fun a => .object a.payload))]

end Request
end Rehearsal
