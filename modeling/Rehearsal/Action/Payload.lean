import Rehearsal.Action.Reading
/-!
Actions as untyped data again: `toFields` gives every field under its own name, `payload` the form
that goes over the wire, with the wire names of a loop's fields and without the fields that are
null. Reading a payload gives the action back, up to null fields of unknown actions.
-/
namespace Rehearsal

/-- Drops the fields that are null. -/
def dropNulls (fields : Fields) : Fields := fields.filter fun (_, v) => !(v matches .null)

/-- The wire form of fields: without those that are null, but never without a type. -/
def wire (tag : String) (fields : Fields) : Fields :=
  let kept := dropNulls fields
  if (kept.lookup "type").isSome then kept else kept ++ [("type", .text tag)]

/-- The fields of the hints that are not null. -/
def Hints.payload (h : Hints) : Value := .object (dropNulls h.toFields)

namespace Click

def toFields (c : Click) : Fields :=
  [("type", .text "click"), ("xpath", .text c.xpath),
    ("hints", Value.ofOption Hints.toValue c.hints)]

def payload (c : Click) : Fields :=
  dropNulls [("type", .text "click"), ("xpath", .text c.xpath),
    ("hints", Value.ofOption Hints.payload c.hints)]

end Click

def Entry.toFields (e : Entry) : Fields :=
  [("type", .text "type"), ("xpath", .text e.xpath), ("value", .text e.value)]

def Wait.toFields (w : Wait) : Fields := [("type", .text "wait"), ("seconds", .float w.seconds)]

def PopupSwitch.toFields (s : PopupSwitch) : Fields :=
  [("type", .text "switchToPopup"), ("domains", .list (s.domains.map .text)),
    ("timeout_seconds", Value.ofOption .float s.timeout), ("required", .flag s.required)]

namespace SubAction

def toFields : SubAction → Fields
  | click c => c.toFields
  | type e => e.toFields
  | wait w => w.toFields

def payload : SubAction → Fields
  | click c => c.payload
  | type e => e.toFields
  | wait w => w.toFields

end SubAction

namespace Loop

def toFields (l : Loop) : Fields :=
  [("type", .text "loopUntil"), ("xpath", .text l.xpath),
    ("actions_if_true", .list (l.body.map fun a => .object a.toFields)),
    ("max_attempts", Value.ofOption .int l.maxAttempts)]

def payload (l : Loop) : Fields :=
  dropNulls [("type", .text "loopUntil"), ("xpath", .text l.xpath),
    ("actionsIfTrue", .list (l.body.map fun a => .object a.payload)),
    ("maxAttempts", Value.ofOption .int l.maxAttempts)]

end Loop

def Extraction.toFields (x : Extraction) : Fields :=
  [("type", .text "extractText"), ("xpath", .text x.xpath),
    ("result", Value.ofOption .text x.result)]

def UnknownAction.toFields (u : UnknownAction) : Fields := ("type", .text u.type) :: u.extras

namespace Action

/-- Every field under its own name. -/
def toFields : Action → Fields
  | goto url => [("type", .text "goto"), ("url", .text url)]
  | click c => c.toFields
  | type e => e.toFields
  | wait w => w.toFields
  | switchToPopup s => s.toFields
  | switchToMain => [("type", .text "switchToMain")]
  | loopUntil l => l.toFields
  | screenshot path => [("type", .text "screenshot"), ("path", .text path)]
  | extractText x => x.toFields
  | unknown u => u.toFields

/-- The wire form. -/
def payload : Action → Fields
  | click c => c.payload
  | loopUntil l => l.payload
  | a => wire a.name a.toFields

end Action

/-- What an action shows of itself. -/
structure Shown where
  name : Value
  target : Value
  fields : Fields
  payload : Fields

def Action.shown (a : Action) : Shown :=
  { name := .text a.name, target := a.target, fields := a.toFields, payload := a.payload }

/-- Why an attribute of an action cannot be set or told. -/
inductive AttributeFault where
  | frozen (name : String)
  | constant (model name : String)
  | readOnly (model name : String)
  | noField (model name : String)
  | notWritable (name : String)
  | notFields (kind : String)
  | notClass (kind : String)
  | missing (owner name : String)
deriving Repr, DecidableEq

namespace AttributeFault

def message : AttributeFault → String
  | frozen _ => (Validation.Cause.frozen).message
  | constant model name =>
    "'" ++ name ++ "' is a ClassVar of `" ++ model ++ "` and cannot be set on an instance. " ++
      "If you want to set a value on the class, use `" ++ model ++ "." ++ name ++ " = value`."
  | readOnly model name => "property '" ++ name ++ "' of '" ++ model ++ "' object has no setter"
  | noField model name => "\"" ++ model ++ "\" object has no field \"" ++ name ++ "\""
  | notWritable name => "attribute '" ++ name ++ "' of 'ActionBase' objects is not writable"
  | notFields kind => "__dict__ must be set to a dictionary, not a '" ++ kind ++ "'"
  | notClass kind => "__class__ must be set to a class, not '" ++ kind ++ "' object"
  | missing owner name => "'" ++ owner ++ "' object has no attribute '" ++ name ++ "'"

end AttributeFault

namespace Action

/-- Names that belong to a model and not to its actions. -/
def constants : List String :=
  ["settles", "__action_name__", "__class_vars__", "__private_attributes__", "__signature__"]

/-- Names under which an action tells something that follows from its fields. -/
def derived : List String := ["action_name", "target", "model_extra", "model_fields_set"]

/-- The fields that the model declares, from untyped ones. -/
def declared (a : Action) (given : Fields) : Fields :=
  given.filter fun (name, _) => a.model.fieldNames.contains name

/-- A loop's fields have names of their own on the wire. -/
def wireName : String → String
  | "actions_if_true" => "actionsIfTrue"
  | "max_attempts" => "maxAttempts"
  | name => name

/-- What the action shows when its fields are others. They are shown as they are, of any kind; an
unknown action keeps its further fields. -/
def withFields (a : Action) (given : Fields) : Except AttributeFault Shown :=
  let (own, extras) : Option Value × Fields := match a with
    | unknown u => (given.lookup "type", u.extras)
    | _ => (some (.text a.model.tag), [])
  match own with
  | none => .error (.missing a.model.name "type")
  | some name =>
    let fields := a.declared given ++ extras
    .ok {
      name, fields
      target := ((given ++ extras).lookup "xpath").getD .null
      payload := wire a.model.tag (fields.map fun (name, v) => (wireName name, v)) }

/-- What the action shows after a name with a leading underscore has been set. Such names are not
fields; a few of them have a meaning of their own, and setting any other changes nothing. -/
def assignHidden (a : Action) (name : String) (v : Value) : Except AttributeFault Shown :=
  match name, v with
  | "__dict__", .object given => a.withFields given
  | "__dict__", v => .error (.notFields v.kindName)
  | "__class__", v => .error (.notClass v.kindName)
  | "__fields_set__", _ => .error (.readOnly a.model.name name)
  | "__weakref__", _ => .error (.notWritable name)
  | _, _ => .ok a.shown

/-- What the action shows after an attribute has been set. Actions are frozen, except that a text
extraction takes any value for any of its fields. -/
def assign (a : Action) (name : String) (v : Value) : Except AttributeFault Shown :=
  let model := a.model.name
  if constants.contains name then .error (.constant model name)
  else if name.startsWith "_" then a.assignHidden name v
  else match a with
    | extractText x =>
      if derived.contains name then .error (.readOnly model name)
      else if a.model.fieldNames.contains name then a.withFields (Value.assign x.toFields name v)
      else .error (.noField model name)
    | _ => .error (.frozen name)

/-- The action as a click, if it has an expression and hints. An unknown action may have both among
its further fields, but no hints that could be merged. -/
def asClick : Action → Except AttributeFault Click
  | click c => .ok c
  | unknown u => match u.extras.lookup "xpath", u.extras.lookup "hints" with
    | some (.text xpath), some .null => .ok { xpath }
    | some _, some hints => .error (.missing hints.kindName "merged")
    | some _, none => .error (.missing Model.unknown.name "hints")
    | none, _ => .error (.missing Model.unknown.name "xpath")
  | a => .error (.missing a.model.name
      (if a.model.fieldNames.contains "xpath" then "hints" else "xpath"))

end Action
end Rehearsal
