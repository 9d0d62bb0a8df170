import Rehearsal.Action.Reading
/-!
The registry of action models by type tag. It remembers which model it has looked up for a tag, and
forgets that when the tag is registered again, so a parse always uses the model registered last.
A tag nobody registered reads as an unknown action.
-/
namespace Rehearsal

/-- What somebody may try to register. -/
inductive Candidate where
  | model (m : Model)
  /-- The model of actions without any fields. -/
  | plain
  | foreignType
  | notAType
deriving Repr, DecidableEq

/-- A model that can be registered. -/
inductive Registrable where
  | model (m : Model)
  | plain
deriving Repr, DecidableEq

namespace Registrable

def name : Registrable → String
  | model m => m.name
  | plain => "ActionBase"

/-- The tag it is registered under when none is given. -/
def ownTag : Registrable → String
  | model m => m.tag
  | plain => "ActionBase"

def fieldNames : Registrable → List String
  | model m => m.fieldNames
  | plain => []

end Registrable

inductive RegisterFault where
  | notAnAction
  | notAType
deriving Repr, DecidableEq

def RegisterFault.message : RegisterFault → String
  | notAnAction => "model must subclass ActionBase"
  | notAType => "issubclass() arg 1 must be a class"

def Candidate.check : Candidate → Except RegisterFault Registrable
  | model m => .ok (.model m)
  | plain => .ok .plain
  | foreignType => .error .notAnAction
  | notAType => .error .notAType

/-- Why untyped data is not a list of actions. -/
inductive ParseFault where
  | notAnObject (kind : String)
  | notAList
  | invalid (faults : List Validation.Fault)
  /-- The model accepts the data, but an action without a type has no name to go by. -/
  | nameless
deriving Repr, DecidableEq

def ParseFault.message : ParseFault → String
  | notAnObject kind => "action must be an object, got " ++ kind
  | notAList => "actions must be a list"
  | invalid _ => "<ValidationError>"
  | nameless => "'ActionBase' object has no attribute '__action_name__'"

/-- An action to be, or one that has been parsed already. -/
inductive Item where
  | raw (v : Value)
  | ready (a : Action)

structure Spec where
  name : String
  model : Registrable
  description : String := ""
deriving Repr, DecidableEq

structure Registry where
  /-- In order of first registration; names are distinct. -/
  specs : List Spec := []
  /-- The models looked up so far. -/
  prepared : List (String × Registrable) := []
deriving Repr, DecidableEq

namespace Registry

def find (r : Registry) (name : String) : Option Spec := r.specs.find? (·.name = name)

def contains (r : Registry) (name : String) : Bool := (r.find name).isSome

def names (r : Registry) : List String := r.specs.map (·.name)

/-- Replaces the entry of that name where it stands, or adds one at the end. -/
def place (specs : List Spec) (s : Spec) : List Spec :=
  match specs with
  | [] => [s]
  | t :: rest => if t.name = s.name then s :: rest else t :: place rest s

/-- An empty name counts as not given. -/
def register (r : Registry) (c : Candidate) (name : Option String) (description : Option String) :
    Except RegisterFault Registry :=
  match c.check with
  | .error f => .error f
  | .ok m =>
    let given := name.getD ""
    let tag := if given = "" then m.ownTag else given
    .ok { specs := place r.specs ⟨tag, m, description.getD ""⟩,
          prepared := r.prepared.filter fun (n, _) => n ≠ tag }

/-- The tag under which an action is looked up. -/
def tagOf (fields : Fields) : String :=
  match fields.lookup "type" with
  | some v => if v.truthy then v.display else ""
  | none => ""

/-- The model for a tag: the remembered one, else the registered one. -/
def modelFor (r : Registry) (tag : String) : Option Registrable :=
  match r.find tag with
  | none => none
  | some s => some ((r.prepared.lookup tag).getD s.model)

/-- The registry after a look-up of the tag. -/
def remember (r : Registry) (tag : String) : Registry :=
  match r.modelFor tag with
  | some m =>
    if (r.prepared.lookup tag).isSome then r else { r with prepared := (tag, m) :: r.prepared }
  | none => r

def readFields (m : Option Registrable) (fields : Fields) : Except ParseFault Action :=
  match m with
  | none => .ok (.unknown (UnknownAction.ofFields fields))
  | some .plain => .error .nameless
  | some (.model m) => match Action.ofFields m fields with
    | .ok a => .ok a
    | .error faults => .error (.invalid faults)

/-- Parses one item. Parsed actions stay as they are. -/
def parse (r : Registry) : Item → Except ParseFault Action × Registry
  | .ready a => (.ok a, r)
  | .raw (.object fields) =>
    (readFields (r.modelFor (tagOf fields)) fields, r.remember (tagOf fields))
  | .raw v => (.error (.notAnObject v.kindName), r)

/-- The actions of a list, from what its first item reads as and what the others do. A list is
refused for the first item that is; that an action has no name shows once all of them are read. -/
def collect (first : Except ParseFault Action) (others : Except ParseFault (List Action)) :
    Except ParseFault (List Action) :=
  match first, others with
  | .ok a, .ok as => .ok (a :: as)
  | .ok _, .error f | .error .nameless, .error f => .error f
  | .error f, _ => .error f

/-- Parses items in order, up to the first that is refused. -/
def parseItems (r : Registry) : List Item → Except ParseFault (List Action) × Registry
  | [] => (.ok [], r)
  | i :: rest => match r.parse i with
    | (.ok a, r) => match r.parseItems rest with
      | (others, r) => (collect (.ok a) others, r)
    | (.error .nameless, r) => match r.parseItems rest with
      | (others, r) => (collect (.error .nameless) others, r)
    | (.error f, r) => (.error f, r)

theorem modelFor_remember (r : Registry) (tag other : String) :
    (r.remember tag).modelFor other = r.modelFor other := by
  cases known : r.modelFor tag with
  | none => simp [remember, known]
  | some m =>
    by_cases seen : (r.prepared.lookup tag).isSome
    · simp [remember, known, seen]
    · have added : r.remember tag = { r with prepared := (tag, m) :: r.prepared } := by
        simp [remember, known, seen]
      have kept : (r.remember tag).find other = r.find other := by rw [added]; rfl
      unfold modelFor at known ⊢
      rw [kept, added]
      cases found : r.find other with
      | none => rfl
      | some s =>
        by_cases same : other = tag
        · subst same
          simpa [found] using known.symm
        · simp [List.lookup_cons, beq_false_of_ne same]

/-- What has been looked up before has no influence on what an item reads as. -/
theorem parse_parse (r : Registry) (before i : Item) :
    ((r.parse before).2.parse i).1 = (r.parse i).1 := by
  have remembered (tag : String) (v : Value) :
      ((r.remember tag).parse (.raw v)).1 = (r.parse (.raw v)).1 := by
    cases v with
    | object fields => exact congrArg (readFields · fields) (r.modelFor_remember tag _)
    | _ => rfl
  cases i with
  | ready a => rfl
  | raw v =>
    cases before with
    | ready a => rfl
    | raw w =>
      cases w with
      | object fields => exact remembered (tagOf fields) v
      | _ => rfl

theorem parseItems_cons (r : Registry) (i : Item) (rest : List Item) :
    (r.parseItems (i :: rest)).1 = collect (r.parse i).1 ((r.parse i).2.parseItems rest).1 := by
  rw [parseItems]
  split <;> rename_i first
  · rw [first]
  · rw [first]
  · next f _ named =>
    rw [first]
    cases f with
    | nameless => exact absurd rfl named
    | _ => rfl

theorem collect_ok {first : Except ParseFault Action} {others : Except ParseFault (List Action)}
    {actions : List Action} : collect first others = .ok actions ↔
      ∃ a as, first = .ok a ∧ others = .ok as ∧ actions = a :: as := by
  unfold collect
  split <;> simp [eq_comm]

/-- A list is read as actions exactly when each item is. -/
theorem parseItems_ok (r : Registry) (items : List Item) (actions : List Action) :
    (r.parseItems items).1 = .ok actions ↔
      items.map (fun i => (r.parse i).1) = actions.map .ok := by
  induction items generalizing r actions with
  | nil => cases actions <;> simp [parseItems]
  | cons i rest ih =>
    have later := ih (r.parse i).2
    simp only [parse_parse] at later
    rw [parseItems_cons, collect_ok]
    cases actions with
    | nil => simp
    | cons b bs => simp [List.map_cons, later]

/-- Actions that have been parsed stay as they are, and no model is looked up for them. -/
theorem parseItems_ready (r : Registry) (actions : List Action) :
    r.parseItems (actions.map .ready) = (.ok actions, r) := by
  induction actions with
  | nil => rfl
  | cons a rest ih =>
    rw [List.map_cons, parseItems]
    simp only [parse, ih, collect]

/-- Parses a list of raw actions. -/
def parseAll (r : Registry) : Value → Except ParseFault (List Action) × Registry
  | .list items => r.parseItems (items.map .raw)
  | _ => (.error .notAList, r)

/-- Every name with its fields and description. -/
def schema (r : Registry) : List (String × Value) :=
  r.specs.map fun s => (s.name, .object [("name", .text s.name),
    ("fields", .list (s.model.fieldNames.map .text)), ("description", .text s.description)])

/-- The description that goes with each model of the standard registry. -/
def standardDescription : Model → String
  | .goto => "Navigate the current page"
  | .click => "Click an element with retries and fallbacks"
  | .type => "Fill a field"
  | .wait => "Pause for a number of seconds"
  | .switchToPopup => "Move to a newly opened tab or popup"
  | .switchToMain => "Return to the original tab"
  | .loopUntil => "Repeat sub-actions until a field reaches today"
  | .screenshot => "Save a screenshot of the current page"
  | .extractText => "Read the text content of an element"
  | .unknown => ""

/-- The registry of all models the engine implements. -/
def standard : Registry where
  specs := Model.known.map fun m => ⟨m.tag, .model m, standardDescription m⟩

end Registry
end Rehearsal
