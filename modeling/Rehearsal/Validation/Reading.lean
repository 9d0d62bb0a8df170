import Rehearsal.Value
import Rehearsal.Validation.Fault
import Rehearsal.Decimal.Whole
import Rehearsal.Text.Cut
/-!
Typed values from untyped ones. Text must be text. Numbers and flags are read leniently: numbers
also from numerals and flags, flags also from the usual words and from zero and one. White space
around a numeral is ignored; single underscores may stand between its digits.
-/
namespace Rehearsal.Validation
open Rehearsal.Text Rehearsal.Decimal

def text : Value → Checked String
  | .text s => .ok s
  | _ => .fail .notText

/-- Null, or a value the check accepts. -/
def nullable {α : Type} (check : Value → Checked α) : Value → Checked (Option α)
  | .null => .ok none
  | v => (check v).map some

theorem nullable_some {α : Type} {check : Value → Checked α} {v : Value} {a : α} :
    nullable check v = .ok (some a) ↔ v ≠ .null ∧ check v = .ok a := by
  cases v <;> simp [nullable, Checked.map_ok]

def list {α : Type} (check : Value → Checked α) : Value → Checked (List α)
  | .list xs => Checked.items check xs
  | _ => .fail .notList

theorem list_ok {α : Type} {check : Value → Checked α} {v : Value} {as : List α} :
    list check v = .ok as ↔ ∃ xs, v = .list xs ∧ xs.map check = as.map .ok := by
  cases v <;> simp [list, Checked.items_ok, Checked.fail]

/-- Drops single underscores from the inside of a numeral. -/
def ungroup (s : List Char) : Option (List Char) :=
  if s.head? = some '_' || s.getLast? = some '_' || occursIn ['_', '_'] s then none
  else some (s.filter (· != '_'))

/-- The double a whole number rounds to, unless it is too large for one. -/
def doubleOf? (n : Int) : Option Float :=
  let x := nearest n.natAbs 0
  if x.isInf then none else some (if n < 0 then -x else x)

def number : Value → Checked Float
  | .float x => .ok x
  | .int n => match doubleOf? n with
    | some x => .ok x
    | none => .fail .notNumber
  | .flag b => .ok (if b then 1 else 0)
  | .text s =>
    match decimal? (trimChars isWhite s.toList) with
    | some x => .ok x
    | none => match (ungroup s.toList).bind decimal? with
      | some x => .ok x
      | none => .fail .unreadableNumber
  | _ => .fail .notNumber

/-- Zeros in front of a numeral, before another digit, a minus sign or a point. Underscores among
them go too. -/
def dropLeadingZeros : List Char → Option (List Char)
  | '0' :: rest => afterZero '0' rest
  | c :: rest => if isDigit c || c == '-' then some (c :: rest) else none
  | [] => none
where
  afterZero (last : Char) : List Char → Option (List Char)
    | [] => some [last]
    | c :: rest =>
      if c == '0' || c == '_' then afterZero c rest
      else if isDigit c || c == '-' then some (c :: rest)
      else if c == '.' then some (last :: c :: rest)
      else none

/-- A point that only zeros follow, at least one, is dropped with them. -/
def dropZeroFraction (s : List Char) : List Char :=
  match s.span (· != '.') with
  | (whole, _ :: zeros) => if !zeros.isEmpty && zeros.all (· == '0') then whole else s
  | _ => s

/-- A whole numeral without what may be left out of it: a plus sign, zeros in front and a fraction
of zeros. -/
def essential? (s : List Char) : Option (List Char) :=
  match trimChars isWhite s with
  | '+' :: '-' :: _ => none
  | '+' :: rest => (dropLeadingZeros rest).map dropZeroFraction
  | cs => (dropLeadingZeros cs).map dropZeroFraction

/-- The whole number that text spells. -/
def wholeOfText? (s : String) : Option Int :=
  (essential? s.toList).bind fun cs => (readWhole cs).toOption

/-- The whole number a double stands for. -/
def wholeOfDouble (x : Float) : Except Cause Int :=
  match Shape.ofFloat x with
  | .finite b =>
    if !b.isWhole then .error .fractionalWhole
    else
      let n := b.truncate
      if -(Nat.pow 2 63 : Int) < n ∧ n < (Nat.pow 2 63 : Int) then .ok n else .error .oversizedWhole
  | _ => .error .notFinite

def whole : Value → Checked Int
  | .int n => .ok n
  | .flag b => .ok (if b then 1 else 0)
  | .float x => match wholeOfDouble x with
    | .ok n => .ok n
    | .error cause => .fail cause
  | .text s => match wholeOfText? s with
    | some n => .ok n
    | none => .fail .unreadableWhole
  | _ => .fail .notWhole

def flagWord? (s : String) : Option Bool :=
  let w := s.map Char.toLower
  if ["1", "on", "t", "true", "y", "yes"].contains w then some true
  else if ["0", "off", "f", "false", "n", "no"].contains w then some false
  else none

def flagNumber (n : Int) : Checked Bool :=
  if n = 0 then .ok false else if n = 1 then .ok true else .fail .unreadableFlag

def flag : Value → Checked Bool
  | .flag b => .ok b
  | .text s => match flagWord? s with
    | some b => .ok b
    | none => .fail .unreadableFlag
  | .int n =>
    if -(Nat.pow 2 63 : Int) ≤ n ∧ n < (Nat.pow 2 63 : Int) then flagNumber n else .fail .notFlag
  | .float x => match wholeOfDouble x with
    | .ok n => flagNumber n
    | .error _ => .fail .notFlag
  | _ => .fail .notFlag

/-- Above the bound; not-a-number never is. -/
def above (bound : Nat) (x : Float) : Checked Float :=
  if Float.ofNat bound < x then .ok x else .fail (.notAbove bound)

/-- At the bound or above it; not-a-number never is. -/
def atLeast (bound : Nat) (x : Float) : Checked Float :=
  if Float.ofNat bound ≤ x then .ok x else .fail (.notAtLeast bound)

def wholeAtLeast (bound : Nat) (n : Int) : Checked Int :=
  if (bound : Int) ≤ n then .ok n else .fail (.notAtLeast bound)

theorem above_ok {bound : Nat} {x y : Float} :
    above bound x = .ok y ↔ Float.ofNat bound < x ∧ x = y := by
  unfold above
  split <;> simp [Checked.fail, *]

theorem atLeast_ok {bound : Nat} {x y : Float} :
    atLeast bound x = .ok y ↔ Float.ofNat bound ≤ x ∧ x = y := by
  unfold atLeast
  split <;> simp [Checked.fail, *]

theorem wholeAtLeast_ok {bound : Nat} {m n : Int} :
    wholeAtLeast bound m = .ok n ↔ (bound : Int) ≤ m ∧ m = n := by
  unfold wholeAtLeast
  split <;> simp [Checked.fail, *]

/-- The first of the names that the fields have, with its value. -/
def findField (names : List String) (fields : List (String × Value)) : Option (String × Value) :=
  names.findSome? fun name => (fields.lookup name).map (name, ·)

/-- A field that must be there. Its names are tried in order; a missing one is reported at the
first. -/
def required {α : Type} (names : List String) (fields : List (String × Value))
    (check : Value → Checked α) : Checked α :=
  match findField names fields with
  | some (name, v) => (check v).under (.key name)
  | none => (Checked.fail .missing).under (.key (names.headD ""))

/-- A field that may be left out. -/
def optional {α : Type} (names : List String) (fields : List (String × Value)) (default : α)
    (check : Value → Checked α) : Checked α :=
  match findField names fields with
  | some (name, v) => (check v).under (.key name)
  | none => .ok default

theorem required_ok {α : Type} {names : List String} {fields : List (String × Value)}
    {check : Value → Checked α} {a : α} :
    required names fields check = .ok a ↔
      ∃ found, findField names fields = some found ∧ check found.2 = .ok a := by
  unfold required
  rcases findField names fields with _ | ⟨name, v⟩
  · simp [Checked.under, Checked.fail]
  · simp [Checked.under_ok]

theorem optional_ok {α : Type} {names : List String} {fields : List (String × Value)} {default : α}
    {check : Value → Checked α} {a : α} :
    optional names fields default check = .ok a ↔
      (findField names fields = none ∧ default = a) ∨
        ∃ found, findField names fields = some found ∧ check found.2 = .ok a := by
  unfold optional
  rcases findField names fields with _ | ⟨name, v⟩
  · simp
  · simp [Checked.under_ok]

theorem optional_given {α : Type} {names : List String} {fields : List (String × Value)}
    {default : α} {check : Value → Checked α} {a : α} (name : String) (v : Value)
    (found : findField names fields = some (name, v)) (accepted : check v = .ok a) :
    optional names fields default check = .ok a :=
  optional_ok.2 (.inr ⟨(name, v), found, accepted⟩)

/-- Nothing but this text. -/
def literal (expected : String) : Value → Checked Unit
  | .text s => if s = expected then .ok () else .fail (.notLiteral expected)
  | _ => .fail (.notLiteral expected)

/-- No fields besides the known ones. -/
def onlyFields (known : List String) (fields : List (String × Value)) : Checked Unit :=
  (Checked.all (fields.map fun (name, _) =>
    if known.contains name then (.ok () : Checked Unit)
    else (Checked.fail .unexpectedField).under (.key name))).map fun _ => ()

end Rehearsal.Validation
