import Mathlib.Data.List.DropRight
import Rehearsal.Action.Request
/-!
# The wire form of requests

What is read as a request and written again reads as the same request, and is written the same way
from then on. Reading establishes a few facts about an action, such as the trimmed address of a
navigation; of actions with these facts, writing loses only the null fields of unknown actions.
A wait of zero seconds is the one exception: on the wire zero stands for the usual second.
-/
namespace Rehearsal
open Validation

section Texts

variable {drop : Char → Bool} {s : List Char}

theorem Text.trimChars_trimChars : trimChars drop (trimChars drop s) = trimChars drop s := by
  have front : (trimChars drop s).dropWhile drop = trimChars drop s := by
    obtain ⟨cut, split⟩ : trimChars drop s <+: s.dropWhile drop := List.rdropWhile_prefix drop _
    have first := List.dropWhile_idempotent drop s
    rw [← split] at first
    cases h : trimChars drop s with
    | nil => rfl
    | cons c rest =>
      rw [h, List.cons_append, List.dropWhile_eq_self_iff] at first
      simpa [List.dropWhile_eq_self_iff] using first
  calc trimChars drop (trimChars drop s)
      = (trimChars drop s).rdropWhile drop := by rw [trimChars, front]; rfl
    _ = trimChars drop s := List.rdropWhile_idempotent drop _

theorem Text.trim_trim (s : String) : trim (trim s) = trim s := by
  simp [trim, trimWhere, trimChars_trimChars]

lemma Decimal.Tens.positional_nonempty (t : Decimal.Tens) : t.positional ≠ [] := by
  unfold Decimal.Tens.positional
  split <;> simp

lemma Decimal.Binary.text_nonempty (b : Decimal.Binary) : b.text ≠ [] := by
  unfold Decimal.Binary.text
  split
  · decide
  · dsimp only
    split
    · exact Decimal.Tens.positional_nonempty _
    · simp [Decimal.Tens.scientific]

lemma Decimal.text_nonempty (x : Float) : Decimal.text x ≠ "" := by
  unfold Decimal.text
  split
  · decide
  · split <;> decide
  · split <;> simp [Decimal.Binary.text_nonempty]

lemma Temporal.text_nonempty (t : Temporal) : t.text ≠ "" := by
  cases t <;> simp [Temporal.text, Date.iso, TimeOfDay.text]

/-- A type tag that counts as present has a text, so an unknown action has a name. -/
lemma Value.display_nonempty {v : Value} (h : v.truthy) : v.display ≠ "" := by
  cases v with
  | null => cases h
  | flag b => cases b <;> decide
  | int n =>
    cases n with
    | ofNat n => exact Nat.repr_ne_empty
    | negSucc n => simp [Value.display, Value.nested, Int.repr, toString]
  | float x => exact Decimal.text_nonempty x
  | text s => simpa [Value.truthy, Value.display] using h
  | moment t => exact t.text_nonempty
  | list items => simp [Value.display, Value.nested]
  | object fields => simp [Value.display, Value.nested]

end Texts

/-! ## Parts that survive writing unconditionally -/

theorem Hints.ofValue_payload (h : Hints) : Hints.ofValue h.payload = .ok h := by
  obtain ⟨text, attributes, container, tag⟩ := h
  have pairs : Checked.all ((attributes.map fun a => (a.1, Value.text a.2)).map fun a =>
      ((Validation.text a.2).under (.key a.1)).map (a.1, ·)) = .ok attributes := by
    simp [Checked.all_ok, Validation.text, Checked.under, Except.map]
  cases text <;> cases tag <;>
  · simp only [Hints.payload, Hints.ofValue, Hints.ofFields, Checked.map_ok, Checked.keep_ok,
      Checked.both_ok]
    exact ⟨⟨_, attributes, _, _⟩, ⟨⟨rfl,
      optional_given "attributes" (attributesValue attributes) rfl pairs, rfl, rfl⟩, rfl⟩, rfl⟩

theorem Click.ofFields_payload (c : Click) : Click.ofFields c.payload = .ok c := by
  obtain ⟨xpath, hints⟩ := c
  simp only [Click.ofFields, Checked.map_ok, Checked.both_ok]
  refine ⟨((), xpath, hints), ⟨?_, ?_, ?_⟩, rfl⟩
  · cases hints <;> rfl
  · cases hints <;> rfl
  · cases hints with
    | none => rfl
    | some h =>
      have read : nullable Hints.ofValue h.payload = .ok (some h) :=
        Checked.map_ok.2 ⟨h, h.ofValue_payload, rfl⟩
      exact optional_given "hints" h.payload rfl read

theorem Extraction.ofFields_payload (x : Extraction) :
    Extraction.ofFields (dropNulls x.toFields) = .ok x := by
  obtain ⟨xpath, result⟩ := x
  cases result <;> rfl

/-! ## Parts whose reading establishes what writing them again needs -/

namespace Wait

/-- Not-a-number is no time either. -/
def Valid (w : Wait) : Prop := Float.ofNat 0 ≤ w.seconds

theorem ofFields_ok {fields : Fields} {w : Wait} : Wait.ofFields fields = .ok w ↔
    typeTag .wait fields = .ok () ∧
      Validation.optional ["seconds"] fields 1 secondsOf = .ok w.seconds := by
  simp only [Wait.ofFields, Checked.map_ok, Checked.both_ok]
  exact ⟨by rintro ⟨_, parts, rfl⟩; exact parts, fun parts => ⟨((), w.seconds), parts, rfl⟩⟩

lemma secondsOf_bound {v : Value} {x : Float} (h : secondsOf v = .ok x) : Float.ofNat 0 ≤ x := by
  unfold secondsOf at h
  by_cases default : meansDefault v
  · rw [if_pos default, Except.ok.injEq] at h
    rw [← h]
    decide
  · rw [if_neg default] at h
    cases read : number v with
    | error f => simp [read] at h
    | ok y =>
      obtain ⟨bound, rfl⟩ := atLeast_ok.1 (read ▸ h)
      exact bound

theorem valid_of_ofFields {fields : Fields} {w : Wait} (h : Wait.ofFields fields = .ok w) :
    w.Valid := by
  obtain ⟨-, read⟩ := ofFields_ok.1 h
  rcases optional_ok.1 read with ⟨-, default⟩ | ⟨found, -, given⟩
  · rw [Valid, ← default]
    decide
  · exact secondsOf_bound given

theorem ofFields_toFields {w : Wait} (valid : w.Valid) (nonzero : (w.seconds == 0) = false) :
    Wait.ofFields w.toFields = .ok w := by
  have read : secondsOf (.float w.seconds) = .ok w.seconds := by
    simp only [secondsOf, meansDefault, nonzero, number]
    exact atLeast_ok.2 ⟨valid, rfl⟩
  exact ofFields_ok.2 ⟨rfl, optional_given "seconds" _ rfl read⟩

end Wait

namespace PopupSwitch

def Valid (s : PopupSwitch) : Prop := ∀ x ∈ s.timeout, Float.ofNat 0 < x

theorem ofFields_ok {fields : Fields} {s : PopupSwitch} : PopupSwitch.ofFields fields = .ok s ↔
    typeTag .switchToPopup fields = .ok () ∧
      Validation.optional ["domains", "urlContains"] fields [] domainsOf = .ok s.domains ∧
      Validation.optional ["timeout_seconds", "timeoutSeconds", "timeout"] fields none
        (nullable timeoutOf) = .ok s.timeout ∧
      Validation.optional ["required"] fields false flag = .ok s.required := by
  simp only [PopupSwitch.ofFields, Checked.map_ok, Checked.both_ok]
  exact ⟨by rintro ⟨_, parts, rfl⟩; exact parts,
    fun parts => ⟨((), s.domains, s.timeout, s.required), parts, rfl⟩⟩

lemma timeoutOf_ok {v : Value} {x : Float} :
    timeoutOf v = .ok x ↔ number v = .ok x ∧ Float.ofNat 0 < x := by
  unfold timeoutOf
  cases number v with
  | error f => simp
  | ok y =>
    rw [above_ok, Except.ok.injEq]
    constructor
    · rintro ⟨bound, rfl⟩
      exact ⟨rfl, bound⟩
    · rintro ⟨rfl, bound⟩
      exact ⟨bound, rfl⟩

theorem valid_of_ofFields {fields : Fields} {s : PopupSwitch}
    (h : PopupSwitch.ofFields fields = .ok s) : s.Valid := by
  obtain ⟨-, -, read, -⟩ := ofFields_ok.1 h
  intro x given
  rw [given] at read
  rcases optional_ok.1 read with ⟨-, ⟨⟩⟩ | ⟨found, -, accepted⟩
  exact (timeoutOf_ok.1 (nullable_some.1 accepted).2).2

theorem ofFields_payload {s : PopupSwitch} (valid : s.Valid) :
    PopupSwitch.ofFields (dropNulls s.toFields) = .ok s := by
  obtain ⟨domains, timeout, required⟩ := s
  have read : domainsOf (.list (domains.map .text)) = .ok domains := by
    simp [domainsOf, list, Checked.items_ok, Validation.text]
  refine ofFields_ok.2 ⟨?_, ?_, ?_, ?_⟩
  · cases timeout <;> rfl
  · cases timeout <;> exact optional_given "domains" _ rfl read
  · cases timeout with
    | none => rfl
    | some x =>
      have read : timeoutOf (.float x) = .ok x := timeoutOf_ok.2 ⟨rfl, valid x rfl⟩
      exact optional_given "timeout_seconds" (.float x) rfl (Checked.map_ok.2 ⟨x, read, rfl⟩)
  · cases timeout <;> rfl

end PopupSwitch

namespace SubAction

def Valid : SubAction → Prop
  | wait w => w.Valid
  | _ => True

def waits : SubAction → List Wait
  | wait w => [w]
  | _ => []

lemma valid_of_ofTag {tag : Value} {fields : Fields} {a : SubAction}
    (h : ofTag tag fields = .ok a) : a.Valid := by
  unfold ofTag at h
  split at h
  · obtain ⟨c, -, rfl⟩ := Checked.map_ok.1 h
    trivial
  · obtain ⟨e, -, rfl⟩ := Checked.map_ok.1 h
    trivial
  · obtain ⟨w, read, rfl⟩ := Checked.map_ok.1 h
    exact Wait.valid_of_ofFields (Checked.under_ok.1 read)
  · cases h

theorem valid_of_ofValue {v : Value} {a : SubAction} (h : ofValue v = .ok a) : a.Valid := by
  unfold ofValue at h
  split at h
  · split at h
    · exact valid_of_ofTag h
    · cases h
  · cases h

theorem ofValue_payload {a : SubAction} (valid : a.Valid)
    (nonzero : ∀ w ∈ a.waits, (w.seconds == 0) = false) :
    ofValue (.object a.payload) = .ok a := by
  cases a with
  | click c =>
    have tag : c.payload.lookup "type" = some (.text "click") := by
      obtain ⟨xpath, _ | h⟩ := c <;> rfl
    simp [ofValue, payload, tag, ofTag, c.ofFields_payload, Checked.under, Except.map]
  | type e => rfl
  | wait w =>
    have read := Wait.ofFields_toFields valid (nonzero w (by simp [waits]))
    have tag : w.toFields.lookup "type" = some (.text "wait") := rfl
    simp [ofValue, payload, tag, ofTag, read, Checked.under, Except.map]

end SubAction

namespace Loop

def Valid (l : Loop) : Prop := (∀ n ∈ l.maxAttempts, 1 ≤ n) ∧ ∀ a ∈ l.body, a.Valid

theorem ofFields_ok {fields : Fields} {l : Loop} : Loop.ofFields fields = .ok l ↔
    typeTag .loopUntil fields = .ok () ∧ selectorField fields = .ok l.xpath ∧
      Validation.optional ["actionsIfTrue", "actions_if_true", "actions"] fields []
        (list SubAction.ofValue) = .ok l.body ∧
      Validation.optional ["maxAttempts", "max_attempts"] fields none
        (nullable attemptsOf) = .ok l.maxAttempts := by
  simp only [Loop.ofFields, Checked.map_ok, Checked.both_ok]
  exact ⟨by rintro ⟨_, parts, rfl⟩; exact parts,
    fun parts => ⟨((), l.xpath, l.body, l.maxAttempts), parts, rfl⟩⟩

lemma attemptsOf_ok {v : Value} {n : Int} : attemptsOf v = .ok n ↔ whole v = .ok n ∧ 1 ≤ n := by
  unfold attemptsOf
  cases whole v with
  | error f => simp
  | ok m =>
    rw [wholeAtLeast_ok, Except.ok.injEq]
    constructor
    · rintro ⟨bound, rfl⟩
      exact ⟨rfl, bound⟩
    · rintro ⟨rfl, bound⟩
      exact ⟨bound, rfl⟩

theorem valid_of_ofFields {fields : Fields} {l : Loop} (h : Loop.ofFields fields = .ok l) :
    l.Valid := by
  obtain ⟨-, -, body, attempts⟩ := ofFields_ok.1 h
  constructor
  · intro n given
    rw [given] at attempts
    rcases optional_ok.1 attempts with ⟨-, ⟨⟩⟩ | ⟨found, -, accepted⟩
    exact (attemptsOf_ok.1 (nullable_some.1 accepted).2).2
  · rcases optional_ok.1 body with ⟨-, none⟩ | ⟨⟨name, v⟩, -, accepted⟩
    · simp [← none]
    · obtain ⟨xs, -, each⟩ := list_ok.1 accepted
      intro a member
      have read : Except.ok a ∈ xs.map SubAction.ofValue := each ▸ List.mem_map_of_mem member
      obtain ⟨x, -, hx⟩ := List.mem_map.1 read
      exact SubAction.valid_of_ofValue hx

theorem ofFields_payload {l : Loop} (valid : l.Valid)
    (nonzero : ∀ a ∈ l.body, ∀ w ∈ a.waits, (w.seconds == 0) = false) :
    Loop.ofFields l.payload = .ok l := by
  obtain ⟨xpath, body, maxAttempts⟩ := l
  have read : list SubAction.ofValue (.list (body.map fun a => .object a.payload)) = .ok body := by
    rw [list, Checked.items_ok, List.map_map]
    exact List.map_congr_left fun a member =>
      SubAction.ofValue_payload (valid.2 a member) (nonzero a member)
  refine ofFields_ok.2 ⟨?_, ?_, ?_, ?_⟩
  · cases maxAttempts <;> rfl
  · cases maxAttempts <;> rfl
  · cases maxAttempts <;> exact optional_given "actionsIfTrue" _ rfl read
  · cases maxAttempts with
    | none => rfl
    | some n =>
      have read : attemptsOf (.int n) = .ok n := attemptsOf_ok.2 ⟨rfl, valid.1 n rfl⟩
      exact optional_given "maxAttempts" (.int n) rfl (Checked.map_ok.2 ⟨n, read, rfl⟩)

end Loop

theorem addressText_ok {v : Value} {url : String} : addressText v = .ok url ↔
    ∃ s, v = .text s ∧ Text.trim s = url ∧ url ≠ "" := by
  cases v with
  | text s =>
    by_cases blank : Text.trim s = ""
    · simp [addressText, text, Checked.fail, blank, eq_comm]
    · simp only [addressText, text, if_neg blank, Except.ok.injEq, Value.text.injEq,
        exists_eq_left']
      exact ⟨fun same => ⟨same, same ▸ blank⟩, And.left⟩
  | _ => simp [addressText, text, Checked.fail]

namespace Action

/-- What reading an action establishes. A name that belongs to an implemented model is not the
name of an unknown action. -/
def Valid : Action → Prop
  | goto url => Text.trim url = url ∧ url ≠ ""
  | wait w => w.Valid
  | switchToPopup s => s.Valid
  | loopUntil l => l.Valid
  | screenshot path => path ≠ ""
  | unknown u => u.type ≠ "" ∧ Registry.standard.find u.type = none ∧ ∀ f ∈ u.extras, f.1 ≠ "type"
  | _ => True

/-- The waits an action makes: its own, or those of its sub-actions. -/
def waits : Action → List Wait
  | wait w => [w]
  | loopUntil l => l.body.flatMap SubAction.waits
  | _ => []

/-- The action as it comes back from the wire. -/
def withoutNulls : Action → Action
  | unknown u => unknown { u with extras := dropNulls u.extras }
  | a => a

theorem wire_typed (tag type : String) (fields : Fields) :
    wire tag (("type", .text type) :: fields) = dropNulls (("type", .text type) :: fields) := by
  simp [wire, dropNulls]

theorem payload_withoutNulls (a : Action) : a.withoutNulls.payload = a.payload := by
  cases a with
  | unknown u =>
    show wire u.type (("type", .text u.type) :: dropNulls u.extras) =
      wire u.type (("type", .text u.type) :: u.extras)
    simp [wire_typed, dropNulls, List.filter_filter]
  | _ => rfl

lemma pathOf_nonempty {v : Value} {path : String} (h : pathOf v = .ok path) : path ≠ "" := by
  unfold pathOf at h
  split at h
  · rename_i present
    cases v with
    | text s =>
      cases h
      exact Value.display_nonempty present
    | _ => cases h
  · cases h
    decide

theorem valid_of_ofFields {m : Model} {fields : Fields} {a : Action}
    (h : ofFields m fields = .ok a) (known : m ≠ .unknown) : a.Valid := by
  cases m with
  | goto =>
    obtain ⟨⟨_, url⟩, read, rfl⟩ := Checked.map_ok.1 h
    obtain ⟨found, -, accepted⟩ := required_ok.1 (Checked.both_ok.1 read).2
    obtain ⟨s, -, rfl, nonempty⟩ := addressText_ok.1 accepted
    exact ⟨Text.trim_trim s, nonempty⟩
  | screenshot =>
    obtain ⟨⟨_, path⟩, read, rfl⟩ := Checked.map_ok.1 h
    rcases optional_ok.1 (Checked.both_ok.1 read).2 with ⟨-, rfl⟩ | ⟨found, -, accepted⟩
    · exact (by decide : defaultPath ≠ "")
    · exact pathOf_nonempty accepted
  | unknown => exact absurd rfl known
  | wait =>
    obtain ⟨w, read, rfl⟩ := Checked.map_ok.1 h
    exact Wait.valid_of_ofFields read
  | switchToPopup =>
    obtain ⟨s, read, rfl⟩ := Checked.map_ok.1 h
    exact PopupSwitch.valid_of_ofFields read
  | loopUntil =>
    obtain ⟨l, read, rfl⟩ := Checked.map_ok.1 h
    exact Loop.valid_of_ofFields read
  | _ =>
    obtain ⟨_, -, rfl⟩ := Checked.map_ok.1 h
    trivial

theorem ofFields_payload {a : Action} (valid : a.Valid)
    (nonzero : ∀ w ∈ a.waits, (w.seconds == 0) = false) :
    ofFields a.model a.payload = .ok a.withoutNulls := by
  cases a with
  | goto url =>
    have read : addressText (.text url) = .ok url := addressText_ok.2 ⟨url, rfl, valid⟩
    have found : required ["url", "target"] (payload (goto url)) addressText = .ok url :=
      required_ok.2 ⟨("url", .text url), rfl, read⟩
    exact Checked.map_ok.2 ⟨((), url), Checked.both_ok.2 ⟨rfl, found⟩, rfl⟩
  | click c => exact Checked.map_ok.2 ⟨c, c.ofFields_payload, rfl⟩
  | type e => rfl
  | wait w =>
    exact Checked.map_ok.2 ⟨w, Wait.ofFields_toFields valid (nonzero w (by simp [waits])), rfl⟩
  | switchToPopup s =>
    have written : (switchToPopup s).payload = dropNulls s.toFields :=
      wire_typed "switchToPopup" ..
    exact Checked.map_ok.2 ⟨s, written ▸ PopupSwitch.ofFields_payload valid, rfl⟩
  | switchToMain => rfl
  | loopUntil l =>
    have each (a) (ha : a ∈ l.body) (w) (hw : w ∈ a.waits) : (w.seconds == 0) = false :=
      nonzero w (List.mem_flatMap.2 ⟨a, ha, hw⟩)
    exact Checked.map_ok.2 ⟨l, Loop.ofFields_payload valid each, rfl⟩
  | screenshot path =>
    have present : path ≠ "" := valid
    have read : pathOf (.text path) = .ok path := by simp [pathOf, Value.truthy, text, present]
    have found : Validation.optional ["path"] (payload (screenshot path)) defaultPath pathOf =
        .ok path := optional_given "path" _ rfl read
    exact Checked.map_ok.2 ⟨((), path), Checked.both_ok.2 ⟨rfl, found⟩, rfl⟩
  | extractText x =>
    have written : (extractText x).payload = dropNulls x.toFields :=
      wire_typed "extractText" ..
    exact Checked.map_ok.2 ⟨x, written ▸ x.ofFields_payload, rfl⟩
  | unknown u =>
    have written : (unknown u).payload = ("type", .text u.type) :: dropNulls u.extras :=
      wire_typed u.type ..
    have untagged : ∀ f ∈ dropNulls u.extras, f.1 ≠ "type" := fun f member =>
      valid.2.2 f (List.mem_of_mem_filter member)
    have named : UnknownAction.typeOf (unknown u).payload = u.type := by
      simp [written, UnknownAction.typeOf, Value.truthy, valid.1, Value.display]
    have kept : (unknown u).payload.filter (fun f => f.1 ≠ "type") = dropNulls u.extras := by
      rw [written, List.filter_cons_of_neg (by simp), List.filter_eq_self]
      simpa using untagged
    simp only [model, withoutNulls, ofFields, UnknownAction.ofFields, named, kept]

theorem tagOf_payload {a : Action} (valid : a.Valid) : Registry.tagOf a.payload = a.name := by
  have named : a.payload.lookup "type" = some (.text a.name) := by
    cases a with
    | click c => obtain ⟨xpath, _ | h⟩ := c <;> rfl
    | loopUntil l => obtain ⟨xpath, body, _ | n⟩ := l <;> rfl
    | switchToPopup s => obtain ⟨domains, _ | x, required⟩ := s <;> rfl
    | extractText x => obtain ⟨xpath, _ | r⟩ := x <;> rfl
    | unknown u =>
      have written : (unknown u).payload = dropNulls u.toFields := wire_typed u.type ..
      rw [written]
      rfl
    | _ => rfl
  have present : a.name ≠ "" := by
    cases a with
    | unknown u => exact valid.1
    | _ => simp [name, model, Model.tag]
  simp [Registry.tagOf, named, Value.truthy, present, Value.display]

end Action

namespace Registry

lemma modelFor_tag {m : Model} (known : m ≠ .unknown) :
    standard.modelFor m.tag = some (.model m) := by
  cases m with
  | unknown => exact absurd rfl known
  | _ => rfl

lemma known_of_modelFor {tag : String} {x : Registrable} (h : standard.modelFor tag = some x) :
    ∃ m, m ≠ .unknown ∧ x = .model m := by
  unfold modelFor at h
  split at h
  · cases h
  · rename_i s found
    obtain ⟨m, member, rfl⟩ := List.mem_map.1 (List.mem_of_find?_eq_some found)
    refine ⟨m, ?_, (Option.some.inj h).symm⟩
    rintro rfl
    revert member
    decide

lemma find_of_modelFor {tag : String} (h : standard.modelFor tag = none) :
    standard.find tag = none := by
  unfold modelFor at h
  split at h
  · assumption
  · cases h

/-- The tag an action is looked up under is its name, unless that is made up. -/
lemma typeOf_eq (fields : Fields) : UnknownAction.typeOf fields =
    if tagOf fields = "" then "unknown" else tagOf fields := by
  cases given : fields.lookup "type" with
  | none => simp [UnknownAction.typeOf, tagOf, given]
  | some v =>
    by_cases present : v.truthy
    · simp [UnknownAction.typeOf, tagOf, given, present, Value.display_nonempty present]
    · simp [UnknownAction.typeOf, tagOf, given, present]

theorem valid_of_parse {v : Value} {a : Action} (h : (standard.parse (.raw v)).1 = .ok a) :
    a.Valid := by
  cases v with
  | object fields =>
    change readFields (standard.modelFor (tagOf fields)) fields = .ok a at h
    cases model : standard.modelFor (tagOf fields) with
    | none =>
      rw [model] at h
      cases h
      have named : (UnknownAction.ofFields fields).type ≠ "" ∧
          standard.find (UnknownAction.ofFields fields).type = none := by
        simp only [UnknownAction.ofFields, typeOf_eq]
        split
        · exact ⟨by decide, rfl⟩
        · exact ⟨‹_›, find_of_modelFor model⟩
      exact ⟨named.1, named.2, fun f member => by simpa using (List.mem_filter.1 member).2⟩
    | some x =>
      obtain ⟨m, known, rfl⟩ := known_of_modelFor model
      rw [model] at h
      cases read : Action.ofFields m fields with
      | error faults => simp [readFields, read] at h
      | ok b =>
        simp only [readFields, read, Except.ok.injEq] at h
        exact h ▸ Action.valid_of_ofFields read known
  | _ => cases h

lemma readFields_name {a b : Action} {fields : Fields} (valid : a.Valid)
    (read : Action.ofFields a.model fields = .ok b) :
    readFields (standard.modelFor a.name) fields = .ok b := by
  have implemented (known : a.model ≠ .unknown) :
      readFields (standard.modelFor a.model.tag) fields = .ok b := by
    simp [modelFor_tag known, readFields, read]
  cases a with
  | unknown u =>
    have strange : standard.modelFor u.type = none := by simp [modelFor, valid.2.1]
    cases read
    simp [Action.name, strange, readFields]
  | _ => exact implemented (by simp [Action.model])

theorem parse_payload {a : Action} (valid : a.Valid)
    (nonzero : ∀ w ∈ a.waits, (w.seconds == 0) = false) :
    (standard.parse (.raw (.object a.payload))).1 = .ok a.withoutNulls := by
  have read := readFields_name valid (Action.ofFields_payload valid nonzero)
  rwa [← Action.tagOf_payload valid] at read

end Registry

namespace Request

theorem ofFields_ok {fields : Fields} {r : Request} : ofFields fields = .ok r ↔
    readActions fields = .ok r.actions ∧ required ["url"] fields addressText = .ok r.url ∧
      actionsField fields = .ok () := by
  unfold ofFields
  cases readActions fields with
  | error faults => simp
  | ok actions =>
    simp only [Checked.map_ok, Checked.keep_ok]
    constructor
    · rintro ⟨url, parts, rfl⟩
      exact ⟨rfl, parts⟩
    · rintro ⟨⟨⟩, parts⟩
      exact ⟨r.url, parts, rfl⟩

theorem actionsField_ok {fields : Fields} :
    actionsField fields = .ok () ↔ ∃ items, fields.lookup "actions" = some (.list items) := by
  unfold actionsField
  rw [required_ok]
  cases given : fields.lookup "actions" with
  | none => simp [findField, given]
  | some v => cases v <;> simp [findField, given, Checked.fail]

/-- The actions of a request are one for each item of the list. -/
theorem readActions_ok {fields : Fields} {items : List Value} {actions : List Action}
    (given : fields.lookup "actions" = some (.list items)) :
    readActions fields = .ok actions ↔
      items.map (fun v => (Registry.standard.parse (.raw v)).1) = actions.map .ok := by
  have parsed := Registry.parseItems_ok Registry.standard (items.map .raw) actions
  rw [List.map_map] at parsed
  unfold readActions
  rw [given]
  refine Iff.trans ?_ parsed
  dsimp only
  split <;> rename_i read <;> simp [read]

def Valid (r : Request) : Prop :=
  (Text.trim r.url = r.url ∧ r.url ≠ "") ∧ ∀ a ∈ r.actions, a.Valid

theorem valid_of_ofFields {fields : Fields} {r : Request} (h : ofFields fields = .ok r) :
    r.Valid := by
  obtain ⟨actions, url, list⟩ := ofFields_ok.1 h
  constructor
  · obtain ⟨found, -, accepted⟩ := required_ok.1 url
    obtain ⟨s, -, trimmed, nonempty⟩ := addressText_ok.1 accepted
    exact ⟨trimmed ▸ Text.trim_trim s, nonempty⟩
  · obtain ⟨items, given⟩ := actionsField_ok.1 list
    intro a member
    have read := (readActions_ok given).1 actions ▸ List.mem_map_of_mem (f := Except.ok) member
    obtain ⟨v, -, hv⟩ := List.mem_map.1 read
    exact Registry.valid_of_parse hv

/-- Reading what has been written gives the same request, up to the null fields of unknown
actions, and that is written the same way. -/
theorem payload_reads_back {v : Value} {r : Request} (h : ofValue v = .ok r)
    (nonzero : ∀ a ∈ r.actions, ∀ w ∈ a.waits, (w.seconds == 0) = false) :
    ∃ back, ofValue r.payload = .ok back ∧ back.url = r.url ∧
      back.actions = r.actions.map Action.withoutNulls ∧ back.payload = r.payload := by
  cases v with
  | object fields =>
    obtain ⟨address, valid⟩ := valid_of_ofFields h
    have url : addressText (.text r.url) = .ok r.url := addressText_ok.2 ⟨r.url, rfl, address⟩
    have each : (r.actions.map fun a => Value.object a.payload).map
        (fun v => (Registry.standard.parse (.raw v)).1) =
          (r.actions.map Action.withoutNulls).map .ok := by
      simp only [List.map_map]
      exact List.map_congr_left fun a member =>
        Registry.parse_payload (valid a member) (nonzero a member)
    have same : r.actions.map (fun a => Value.object a.withoutNulls.payload) =
        r.actions.map fun a => .object a.payload := by
      simp only [Action.payload_withoutNulls]
    refine ⟨⟨r.url, r.actions.map Action.withoutNulls⟩, ofFields_ok.2 ⟨?_, ?_, ?_⟩, rfl, rfl, ?_⟩
    · exact (readActions_ok rfl).2 each
    · exact required_ok.2 ⟨("url", .text r.url), rfl, url⟩
    · exact actionsField_ok.2 ⟨_, rfl⟩
    · simpa [payload, Function.comp_def] using same
  | _ => cases h

/-- A request that uses other names than the wire's, with sub-actions and null fields. -/
theorem payload_reads_back_aliases : ∃ r,
    ofValue (.object [("url", .text " https://a.example"), ("actions", .list [
      .object [("type", .text "click"), ("selector", .text "//a"),
        ("hints", .object [("text", .text "Next"), ("tag", .null)])],
      .object [("type", .text "loopUntil"), ("selector", .text "//input"),
        ("actions", .list [.object [("type", .text "click"), ("xpath", .text "//b")],
          .object [("type", .text "wait"), ("seconds", .null)]]),
        ("max_attempts", .int 3)],
      .object [("by", .int 2), ("type", .text "scroll"), ("until", .null)]])]) = .ok r ∧
    (∀ a ∈ r.actions, ∀ w ∈ a.waits, (w.seconds == 0) = false) ∧
    ∃ back, ofValue r.payload = .ok back ∧ back.url = r.url ∧
      back.actions = r.actions.map Action.withoutNulls ∧ back.payload = r.payload := by
  let click : Click := ⟨"//a", some { text := some "Next" }⟩
  let loop : Loop := ⟨"//input", [.click ⟨"//b", none⟩, .wait ⟨1⟩], some 3⟩
  let r : Request := ⟨"https://a.example", [.click click, .loopUntil loop,
    .unknown ⟨"scroll", [("by", .int 2), ("until", .null)]⟩]⟩
  have nonzero : ∀ a ∈ r.actions, ∀ w ∈ a.waits, (w.seconds == 0) = false := by
    intro a member w made
    simp only [r, List.mem_cons, List.not_mem_nil, or_false] at member
    rcases member with rfl | rfl | rfl
    · cases made
    · cases (show w ∈ [⟨1⟩] from made) with
      | head => decide
      | tail _ none => cases none
    · cases made
  refine ⟨r, ?read, nonzero, payload_reads_back ?read nonzero⟩
  rfl

end Request
end Rehearsal
