import Rehearsal.Action
import Rehearsal.Text.Cut
/-!
Actions from untyped data. Each model lists its fields in order, each field the names under which
it may be given; the first name present counts. Unknown fields are ignored, except by the model of
unknown actions, which keeps them. Values are completed and coerced as each field's rule says.
-/
namespace Rehearsal
open Validation

abbrev Fields := List (String × Value)

/-- The type tag may be left out, but not differ. -/
def typeTag (m : Model) (fields : Fields) : Checked Unit :=
  optional ["type"] fields () (literal m.tag)

/-- Text that is not blank, without the blanks around it. -/
def addressText (v : Value) : Checked String :=
  match text v with
  | .error f => .error f
  | .ok s => if Text.trim s = "" then .fail (.rule "url must not be empty") else .ok (Text.trim s)

def selectorField (fields : Fields) : Checked String := required ["xpath", "selector"] fields text

namespace Click

def ofFields (fields : Fields) : Checked Click :=
  ((typeTag .click fields).both <| (selectorField fields).both <|
    optional ["hints"] fields none (nullable Hints.ofValue)).map
    fun (_, xpath, hints) => { xpath, hints }

end Click

namespace Entry

/-- Null counts as empty text, any other value as its own text. -/
def valueText : Value → Checked String
  | .null => .ok ""
  | v => .ok v.display

def ofFields (fields : Fields) : Checked Entry :=
  ((typeTag .type fields).both <| (selectorField fields).both <|
    optional ["value", "text"] fields "" valueText).map fun (_, xpath, value) => { xpath, value }

end Entry

namespace Wait

/-- Null, empty text and zero stand for the usual one second; text that spells zero does not. -/
def meansDefault : Value → Bool
  | .null => true
  | .text s => s = ""
  | .flag b => !b
  | .int n => n = 0
  | .float x => x == 0
  | _ => false

def secondsOf (v : Value) : Checked Float :=
  if meansDefault v then .ok 1
  else match number v with
    | .ok x => atLeast 0 x
    | .error f => .error f

def ofFields (fields : Fields) : Checked Wait :=
  ((typeTag .wait fields).both <| optional ["seconds"] fields 1 secondsOf).map
    fun (_, seconds) => { seconds }

end Wait

namespace PopupSwitch

/-- A list of texts, or one text with commas. -/
def domainsOf : Value → Checked (List String)
  | .text s => .ok (Text.commaList s)
  | v => list text v

def timeoutOf (v : Value) : Checked Float :=
  match number v with
  | .ok x => above 0 x
  | .error f => .error f

def ofFields (fields : Fields) : Checked PopupSwitch :=
  ((typeTag .switchToPopup fields).both <|
    (optional ["domains", "urlContains"] fields [] domainsOf).both <|
    (optional ["timeout_seconds", "timeoutSeconds", "timeout"] fields none
      (nullable timeoutOf)).both <|
    optional ["required"] fields false flag).map
    fun (_, domains, timeout, required) => { domains, timeout, required }

end PopupSwitch

namespace SubAction

def tags : List String := ["click", "type", "wait"]

/-- The tag decides the model; a fault inside is reported below the tag. -/
def ofTag (tag : Value) (fields : Fields) : Checked SubAction :=
  match tag with
  | .text "click" => (Checked.under (.key "click") (Click.ofFields fields)).map .click
  | .text "type" => (Checked.under (.key "type") (Entry.ofFields fields)).map .type
  | .text "wait" => (Checked.under (.key "wait") (Wait.ofFields fields)).map .wait
  | v => .fail (.unknownTag v.display "type" tags)

def ofValue : Value → Checked SubAction
  | .object fields => match fields.lookup "type" with
    | some tag => ofTag tag fields
    | none => .fail (.untagged "type")
  | _ => .fail .notFields

end SubAction

namespace Loop

def attemptsOf (v : Value) : Checked Int :=
  match whole v with
  | .ok n => wholeAtLeast 1 n
  | .error f => .error f

def ofFields (fields : Fields) : Checked Loop :=
  ((typeTag .loopUntil fields).both <| (selectorField fields).both <|
    (optional ["actionsIfTrue", "actions_if_true", "actions"] fields []
      (list SubAction.ofValue)).both <|
    optional ["maxAttempts", "max_attempts"] fields none (nullable attemptsOf)).map
    fun (_, xpath, body, maxAttempts) => { xpath, body, maxAttempts }

end Loop

namespace Extraction

def ofFields (fields : Fields) : Checked Extraction :=
  ((typeTag .extractText fields).both <| (selectorField fields).both <|
    optional ["result"] fields none (nullable text)).map fun (_, xpath, result) => { xpath, result }

end Extraction

namespace UnknownAction

/-- The text of the type tag; a tag that is missing, empty or zero reads as `unknown`. -/
def typeOf (fields : Fields) : String :=
  match fields.lookup "type" with
  | some v => if v.truthy then v.display else "unknown"
  | none => "unknown"

def ofFields (fields : Fields) : UnknownAction :=
  { type := typeOf fields, extras := fields.filter fun (name, _) => name ≠ "type" }

end UnknownAction

namespace Action

/-- What a missing or empty path stands for. -/
def defaultPath : String := "screenshot.png"

def pathOf (v : Value) : Checked String := if v.truthy then text v else .ok defaultPath

/-- The fields of an action, read as the model's. -/
def ofFields (m : Model) (fields : Fields) : Checked Action :=
  match m with
  | .goto => ((typeTag .goto fields).both (required ["url", "target"] fields addressText)).map
      fun (_, url) => .goto url
  | .click => (Click.ofFields fields).map .click
  | .type => (Entry.ofFields fields).map .type
  | .wait => (Wait.ofFields fields).map .wait
  | .switchToPopup => (PopupSwitch.ofFields fields).map .switchToPopup
  | .switchToMain => (typeTag .switchToMain fields).map fun _ => .switchToMain
  | .loopUntil => (Loop.ofFields fields).map .loopUntil
  | .screenshot => ((typeTag .screenshot fields).both
      (optional ["path"] fields defaultPath pathOf)).map fun (_, path) => .screenshot path
  | .extractText => (Extraction.ofFields fields).map .extractText
  | .unknown => .ok (.unknown (UnknownAction.ofFields fields))

/-- Reads a value as an action of the model. -/
def ofValue (m : Model) : Value → Checked Action
  | .object fields => ofFields m fields
  | _ => .fail (.notRecord m.name)

end Action
end Rehearsal
