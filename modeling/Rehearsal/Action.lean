import Rehearsal.Hints
/-!
The actions of a playbook. A playbook is a list of actions; the sub-actions of a loop are clicks,
field entries and waits only. Action types the engine does not know are kept as `unknown` with all
their fields, to be skipped when they are met.
-/
namespace Rehearsal

structure Click where
  xpath : String
  hints : Option Hints := none
deriving Repr, DecidableEq

/-- Enters a value into a field. -/
structure Entry where
  xpath : String
  value : String := ""
deriving Repr, DecidableEq

structure Wait where
  seconds : Float := 1

/-- Moves to a tab or popup that a preceding action opened. -/
structure PopupSwitch where
  domains : List String := []
  timeout : Option Float := none
  required : Bool := false

inductive SubAction where
  | click (c : Click)
  | type (e : Entry)
  | wait (w : Wait)

/-- Repeats sub-actions until a field's value reaches a reference. -/
structure Loop where
  xpath : String
  body : List SubAction := []
  maxAttempts : Option Int := none

/-- Reads the text of an element. `result` is what an earlier reading left, if anything. -/
structure Extraction where
  xpath : String
  result : Option String := none

/-- An action of a type the engine does not implement. -/
structure UnknownAction where
  type : String
  extras : List (String × Value) := []

inductive Action where
  | goto (url : String)
  | click (c : Click)
  | type (e : Entry)
  | wait (w : Wait)
  | switchToPopup (s : PopupSwitch)
  | switchToMain
  | loopUntil (l : Loop)
  | screenshot (path : String)
  | extractText (x : Extraction)
  | unknown (u : UnknownAction)

/-- The models an action can be an instance of. -/
inductive Model where
  | goto
  | click
  | type
  | wait
  | switchToPopup
  | switchToMain
  | loopUntil
  | screenshot
  | extractText
  | unknown
deriving Repr, DecidableEq

namespace Model

/-- The type tag of the model's actions. -/
def tag : Model → String
  | goto => "goto"
  | click => "click"
  | type => "type"
  | wait => "wait"
  | switchToPopup => "switchToPopup"
  | switchToMain => "switchToMain"
  | loopUntil => "loopUntil"
  | screenshot => "screenshot"
  | extractText => "extractText"
  | unknown => "unknown"

/-- The name under which messages speak of the model. -/
def name : Model → String
  | goto => "GotoAction"
  | click => "ClickAction"
  | type => "TypeAction"
  | wait => "WaitAction"
  | switchToPopup => "SwitchToPopupAction"
  | switchToMain => "SwitchToMainAction"
  | loopUntil => "LoopUntilAction"
  | screenshot => "ScreenshotAction"
  | extractText => "ExtractTextAction"
  | unknown => "UnknownAction"

/-- The models the engine implements, in the order in which they are registered. -/
def known : List Model :=
  [goto, click, type, wait, switchToPopup, switchToMain, loopUntil, screenshot, extractText]

def every : List Model := known ++ [unknown]

/-- The names of the declared fields, in alphabetical order. -/
def fieldNames : Model → List String
  | goto => ["type", "url"]
  | click => ["hints", "type", "xpath"]
  | type => ["type", "value", "xpath"]
  | wait => ["seconds", "type"]
  | switchToPopup => ["domains", "required", "timeout_seconds", "type"]
  | switchToMain => ["type"]
  | loopUntil => ["actions_if_true", "max_attempts", "type", "xpath"]
  | screenshot => ["path", "type"]
  | extractText => ["result", "type", "xpath"]
  | unknown => ["type"]

/-- What an action of the model consists of. -/
def Data : Model → Type
  | goto | screenshot => String
  | click => Click
  | type => Entry
  | wait => Wait
  | switchToPopup => PopupSwitch
  | switchToMain => Unit
  | loopUntil => Loop
  | extractText => Extraction
  | unknown => UnknownAction

end Model

namespace Action

def model : Action → Model
  | goto _ => .goto
  | click _ => .click
  | type _ => .type
  | wait _ => .wait
  | switchToPopup _ => .switchToPopup
  | switchToMain => .switchToMain
  | loopUntil _ => .loopUntil
  | screenshot _ => .screenshot
  | extractText _ => .extractText
  | unknown _ => .unknown

def data : (a : Action) → a.model.Data
  | goto url => url
  | click c => c
  | type e => e
  | wait w => w
  | switchToPopup p => p
  | switchToMain => ()
  | loopUntil l => l
  | screenshot path => path
  | extractText x => x
  | unknown u => u

/-- An instance of a model as it is given to whoever expects that model. -/
def as (a : Action) (m : Model) (same : a.model = m) : m.Data := same ▸ a.data

/-- The name by which a run speaks of the action. -/
def name : Action → String
  | unknown u => u.type
  | a => a.model.tag

/-- Navigations and clicks routinely swap the page under the engine, so a pause precedes them. -/
def settles : Action → Bool
  | goto _ | click _ => true
  | _ => false

/-- The selector the action is about. An unknown action may carry any value there. -/
def target : Action → Value
  | click c => .text c.xpath
  | type e => .text e.xpath
  | loopUntil l => .text l.xpath
  | extractText x => .text x.xpath
  | unknown u => (u.extras.lookup "xpath").getD .null
  | _ => .null

/-- The actions after which a popup search starts from a new baseline. -/
def opensPages : Action → Bool
  | goto _ | click _ | loopUntil _ => true
  | _ => false

end Action
end Rehearsal
