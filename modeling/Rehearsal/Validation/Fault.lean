/-!
What can be wrong with untyped data, and where. A fault is a cause and the path to the value at
fault; checks of several parts report the faults of all of them, in the order of the parts.
-/
namespace Rehearsal.Validation

/-- One step from a value to a part of it. -/
inductive Place where
  | key (name : String)
  | index (n : Nat)
deriving Repr, DecidableEq

inductive Cause where
  | missing
  | notText
  | notObject
  | notRecord (model : String)
  | notFields
  | notList
  | notFlag
  | unreadableFlag
  | notWhole
  | unreadableWhole
  | oversizedWhole
  | fractionalWhole
  | notFinite
  | notNumber
  | unreadableNumber
  | notAbove (bound : Nat)
  | notAtLeast (bound : Nat)
  | notLiteral (expected : String)
  | unexpectedField
  | untagged (discriminator : String)
  | unknownTag (tag : String) (discriminator : String) (expected : List String)
  | frozen
  | rule (message : String)
deriving Repr, DecidableEq

namespace Cause

/-- The short name of the cause. -/
def code : Cause → String
  | missing => "missing"
  | notText => "string_type"
  | notObject => "dict_type"
  | notRecord _ => "model_type"
  | notFields => "model_attributes_type"
  | notList => "list_type"
  | notFlag => "bool_type"
  | unreadableFlag => "bool_parsing"
  | notWhole => "int_type"
  | unreadableWhole => "int_parsing"
  | oversizedWhole => "int_parsing_size"
  | fractionalWhole => "int_from_float"
  | notFinite => "finite_number"
  | notNumber => "float_type"
  | unreadableNumber => "float_parsing"
  | notAbove _ => "greater_than"
  | notAtLeast _ => "greater_than_equal"
  | notLiteral _ => "literal_error"
  | unexpectedField => "extra_forbidden"
  | untagged _ => "union_tag_not_found"
  | unknownTag .. => "union_tag_invalid"
  | frozen => "frozen_instance"
  | rule _ => "value_error"

def message : Cause → String
  | missing => "Field required"
  | notText => "Input should be a valid string"
  | notObject => "Input should be a valid dictionary"
  | notRecord model => "Input should be a valid dictionary or instance of " ++ model
  | notFields => "Input should be a valid dictionary or object to extract fields from"
  | notList => "Input should be a valid list"
  | notFlag => "Input should be a valid boolean"
  | unreadableFlag => "Input should be a valid boolean, unable to interpret input"
  | notWhole => "Input should be a valid integer"
  | unreadableWhole => "Input should be a valid integer, unable to parse string as an integer"
  | oversizedWhole => "Unable to parse input string as an integer, exceeded maximum size"
  | fractionalWhole => "Input should be a valid integer, got a number with a fractional part"
  | notFinite => "Input should be a finite number"
  | notNumber => "Input should be a valid number"
  | unreadableNumber => "Input should be a valid number, unable to parse string as a number"
  | notAbove bound => "Input should be greater than " ++ toString bound
  | notAtLeast bound => "Input should be greater than or equal to " ++ toString bound
  | notLiteral expected => "Input should be '" ++ expected ++ "'"
  | unexpectedField => "Extra inputs are not permitted"
  | untagged discriminator => "Unable to extract tag using discriminator '" ++ discriminator ++ "'"
  | unknownTag tag discriminator expected =>
    "Input tag '" ++ tag ++ "' found using '" ++ discriminator ++
      "' does not match any of the expected tags: " ++
      String.intercalate ", " (expected.map fun t => "'" ++ t ++ "'")
  | frozen => "Instance is frozen"
  | rule message => "Value error, " ++ message

end Cause

/-- A cause at the end of a path that starts at the checked value. -/
structure Fault where
  cause : Cause
  place : List Place := []
deriving Repr, DecidableEq

abbrev Checked (α : Type) := Except (List Fault) α

namespace Checked

variable {α β γ : Type}

def fail (cause : Cause) : Checked α := .error [{ cause }]

/-- Moves the faults one step down: they were found in the part at `step`. -/
def under (step : Place) : Checked α → Checked α
  | .ok a => .ok a
  | .error faults => .error (faults.map fun f => { f with place := step :: f.place })

/-- Two parts; the faults of both, the first part's first. -/
def both : Checked α → Checked β → Checked (α × β)
  | .ok a, .ok b => .ok (a, b)
  | .ok _, .error g => .error g
  | .error f, .ok _ => .error f
  | .error f, .error g => .error (f ++ g)

/-- The part on the left, provided the one on the right has no fault. -/
def keep (a : Checked α) (b : Checked Unit) : Checked α := (a.both b).map (·.1)

/-- All parts of a list; the faults of all, in order. -/
def all : List (Checked α) → Checked (List α)
  | [] => .ok []
  | c :: rest => (c.both (all rest)).map fun (a, as) => a :: as

/-- The same check of every item, each at its index. -/
def items (check : γ → Checked α) (xs : List γ) : Checked (List α) :=
  all (xs.mapIdx fun i x => (check x).under (.index i))

theorem map_ok {f : α → β} {c : Checked α} {b : β} :
    c.map f = .ok b ↔ ∃ a, c = .ok a ∧ f a = b := by
  cases c <;> simp [Except.map]

theorem under_ok {step : Place} {c : Checked α} {a : α} : c.under step = .ok a ↔ c = .ok a := by
  cases c <;> simp [under]

theorem both_ok {a : Checked α} {b : Checked β} {x : α × β} :
    a.both b = .ok x ↔ a = .ok x.1 ∧ b = .ok x.2 := by
  cases a <;> cases b <;> simp [both, Prod.ext_iff]

theorem keep_ok {a : Checked α} {b : Checked Unit} {x : α} :
    a.keep b = .ok x ↔ a = .ok x ∧ b = .ok () := by
  cases a <;> cases b <;> simp [keep, both, Except.map]

theorem all_ok {cs : List (Checked α)} {as : List α} : all cs = .ok as ↔ cs = as.map .ok := by
  induction cs generalizing as with
  | nil => cases as <;> simp [all]
  | cons c rest ih => cases as <;> simp [all, map_ok, both_ok, ih]

theorem items_ok {check : γ → Checked α} {xs : List γ} {as : List α} :
    items check xs = .ok as ↔ xs.map check = as.map .ok := by
  rw [items, all_ok]
  -- The two sides differ in the index under which a fault would be reported.
  have at_index (i : Nat) : (xs.mapIdx fun i x => (check x).under (.index i))[i]? =
      (as.map fun a => (.ok a : Checked α))[i]? ↔ (xs.map check)[i]? = (as.map .ok)[i]? := by
    cases hx : xs[i]? <;> cases ha : as[i]? <;> simp [hx, ha, under_ok]
  exact ⟨fun h => List.ext_getElem? fun i => (at_index i).1 (h ▸ rfl),
    fun h => List.ext_getElem? fun i => (at_index i).2 (h ▸ rfl)⟩

end Checked
end Rehearsal.Validation
