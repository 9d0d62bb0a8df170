import Mathlib.Data.List.Forall2
import Rehearsal.Proofs.WholeNumbers
import Rehearsal.Proofs.WireForm

/-!
# How long a written wait is

The seconds of a wait may be left out or written as a number, a flag or text. What is left out or
zero means one second, and everything else means what it reads as. Only text escapes this: text
that spells zero is not looked at before it is read, so it means no wait at all.
-/

namespace Rehearsal

open Validation

namespace Wait

/-- Nothing is said of the seconds. -/
def Unwritten (written : Option Value) : Prop := ∀ v ∈ written, v = .null ∨ v = .text ""

/-- The seconds read as zero. -/
def ReadsZero (written : Option Value) : Prop :=
  ∃ v ∈ written, ∃ x, number v = .ok x ∧ (x == 0) = true

/-- The seconds are text that reads as zero. -/
def SpellsZero (written : Option Value) : Prop :=
  ReadsZero written ∧ ∃ s, written = some (.text s)

/-- The seconds of a wait for which this is written. -/
structure Spans (written : Option Value) (seconds : Float) : Prop where
  positive : 0 < seconds ↔ ¬ SpellsZero written
  one : Unwritten written ∨ ReadsZero written → (seconds = 1 ↔ ¬ SpellsZero written)
  read : ¬ Unwritten written → (ReadsZero written → SpellsZero written) →
    ∃ v ∈ written, number v = .ok seconds

lemma zero_nonneg {x : Float} (zero : (x == 0) = true) : 0 ≤ x := by
  obtain ⟨p, placed, same⟩ := Decimal.beq_iff.mp zero
  exact Decimal.le_iff.mpr ⟨p, p, same, placed, le_refl p⟩

lemma zero_of_pos {x : Float} (positive : 0 < x) : (x == 0) = false := by
  obtain ⟨p, q, start, placed, below⟩ := Decimal.lt_iff.mp positive
  refine Bool.eq_false_iff.mpr fun zero => ?_
  obtain ⟨r, placed', start'⟩ := Decimal.beq_iff.mp zero
  obtain rfl : p = r := Option.some.inj (start.symm.trans start')
  obtain rfl : q = p := Option.some.inj (placed.symm.trans placed')
  exact lt_irrefl _ below

lemma unwritten_some {v : Value} : Unwritten (some v) ↔ v = .null ∨ v = .text "" := by
  simp [Unwritten]

lemma readsZero_some {v : Value} :
    ReadsZero (some v) ↔ ∃ x, number v = .ok x ∧ (x == 0) = true := by
  simp [ReadsZero]

lemma spellsZero_some {v : Value} :
    SpellsZero (some v) ↔ ReadsZero (some v) ∧ ∃ s, v = .text s := by
  simp [SpellsZero]

/-- What says nothing is no number. -/
lemma Unwritten.not_zero {written : Option Value} (h : Unwritten written) :
    ¬ ReadsZero written := by
  rintro ⟨v, given, x, read, -⟩
  rcases h v given with rfl | rfl <;> cases read

lemma number_int {n : Int} {x : Float} : number (.int n) = .ok x ↔ doubleOf? n = some x := by
  constructor
  · intro read
    unfold number at read
    dsimp only at read
    split at read
    · next y same =>
      cases read
      exact same
    · cases read
  · intro same
    unfold number
    dsimp only
    rw [same]

lemma readsZero_int {n : Int} : ReadsZero (some (.int n)) ↔ n = 0 := by
  rw [readsZero_some]
  constructor
  · rintro ⟨x, read, zero⟩
    by_contra other
    have positive := Decimal.doubleOf?_pos (number_int.mp read) other (zero_nonneg zero)
    rw [zero_of_pos positive] at zero
    cases zero
  · rintro rfl
    exact ⟨0, rfl, by decide⟩

/-- One second is what is meant where nothing is said, or zero in another form than text. -/
lemma meansDefault_iff (v : Value) : meansDefault v = true ↔
    Unwritten (some v) ∨ ReadsZero (some v) ∧ ¬ SpellsZero (some v) := by
  rw [unwritten_some, spellsZero_some]
  cases v with
  | null => simp [meansDefault]
  | text s => simp [meansDefault]
  | int n => simp [meansDefault, readsZero_int]
  | flag b =>
    cases b with
    | true =>
      have other : ¬ ReadsZero (some (.flag true)) := by
        rw [readsZero_some]
        rintro ⟨x, read, zero⟩
        cases read
        revert zero
        decide
      simp [meansDefault, other]
    | false =>
      have zero : ReadsZero (some (.flag false)) := readsZero_some.mpr ⟨0, rfl, by decide⟩
      simp [meansDefault, zero]
  | float x =>
    have zero : ReadsZero (some (.float x)) ↔ (x == 0) = true := by
      rw [readsZero_some]
      constructor
      · rintro ⟨y, read, zero⟩
        cases read
        exact zero
      · exact fun zero => ⟨x, rfl, zero⟩
    simp [meansDefault, zero]
  | _ => simp [meansDefault, readsZero_some, number, Checked.fail]

lemma spans_one {written : Option Value}
    (meant : Unwritten written ∨ ReadsZero written ∧ ¬ SpellsZero written) :
    Spans written 1 := by
  have unspelled : ¬ SpellsZero written := by
    rcases meant with silent | ⟨-, unspelled⟩
    · exact fun spelled => silent.not_zero spelled.1
    · exact unspelled
  refine ⟨?_, ?_, ?_⟩
  · exact ⟨fun _ => unspelled, fun _ => by decide⟩
  · exact fun _ => ⟨fun _ => unspelled, fun _ => rfl⟩
  · intro said spelled
    rcases meant with silent | ⟨zero, -⟩
    · exact absurd silent said
    · exact absurd (spelled zero) unspelled

lemma spans_number {v : Value} {x : Float} (read : number v = .ok x) (bound : 0 ≤ x)
    (said : ¬ Unwritten (some v)) (spelt : ReadsZero (some v) → SpellsZero (some v)) :
    Spans (some v) x := by
  have zero : SpellsZero (some v) ↔ (x == 0) = true := by
    constructor
    · rintro ⟨zero, -⟩
      obtain ⟨y, read', zero⟩ := readsZero_some.mp zero
      obtain rfl : x = y := Except.ok.inj (read.symm.trans read')
      exact zero
    · exact fun zero => spelt (readsZero_some.mpr ⟨x, read, zero⟩)
  refine ⟨?_, ?_, fun _ _ => ⟨v, rfl, read⟩⟩
  · rw [zero]
    constructor
    · intro positive
      rw [zero_of_pos positive]
      exact Bool.false_ne_true
    · exact fun other => Decimal.pos_of_nonneg bound (Bool.eq_false_iff.mpr other)
  · rintro (silent | reads)
    · exact absurd silent said
    · refine ⟨?_, fun unspelled => absurd (spelt reads) unspelled⟩
      rintro rfl
      exact absurd (zero.mp (spelt reads)) (by decide)

lemma secondsOf_spans {v : Value} {x : Float} (h : secondsOf v = .ok x) : Spans (some v) x := by
  unfold secondsOf at h
  by_cases meant : meansDefault v = true
  · rw [if_pos meant] at h
    obtain rfl : 1 = x := Except.ok.inj h
    exact spans_one ((meansDefault_iff v).mp meant)
  · rw [if_neg meant] at h
    obtain ⟨said, other⟩ := not_or.mp (mt (meansDefault_iff v).mpr meant)
    rcases given : number v with f | y <;> rw [given] at h
    · cases h
    · obtain ⟨bound, rfl⟩ := atLeast_ok.mp h
      exact spans_number given bound said fun reads => not_not.mp fun spelt => other ⟨reads, spelt⟩

lemma ofFields_spans {fields : Fields} {w : Wait} (h : Wait.ofFields fields = .ok w) :
    Spans (fields.lookup "seconds") w.seconds := by
  obtain ⟨-, read⟩ := ofFields_ok.mp h
  have field : findField ["seconds"] fields =
      (fields.lookup "seconds").map ("seconds", ·) := by
    unfold findField
    rw [List.findSome?_cons]
    cases fields.lookup "seconds" <;> rfl
  rcases optional_ok.mp read with ⟨missing, default⟩ | ⟨found, given, read⟩
  · rw [field, Option.map_eq_none_iff] at missing
    rw [missing, ← default]
    exact spans_one (.inl nofun)
  · rw [field, Option.map_eq_some_iff] at given
    obtain ⟨v, written, rfl⟩ := given
    rw [written]
    exact secondsOf_spans read

/-- What an action is written with for its seconds. -/
def written : Value → Option Value
  | .object fields => fields.lookup "seconds"
  | _ => none

lemma ofTag_wait {tag : Value} {fields : Fields} {w : Wait}
    (h : SubAction.ofTag tag fields = .ok (.wait w)) : Wait.ofFields fields = .ok w := by
  unfold SubAction.ofTag at h
  split at h
  · obtain ⟨c, -, same⟩ := Checked.map_ok.mp h
    cases same
  · obtain ⟨e, -, same⟩ := Checked.map_ok.mp h
    cases same
  · obtain ⟨u, read, same⟩ := Checked.map_ok.mp h
    cases same
    exact Checked.under_ok.mp read
  · cases h

lemma subAction_spans {v : Value} {w : Wait} (h : SubAction.ofValue v = .ok (.wait w)) :
    Spans (written v) w.seconds := by
  unfold SubAction.ofValue at h
  split at h
  · split at h
    · exact ofFields_spans (ofTag_wait h)
    · cases h
  · cases h

end Wait

/-- The sub-actions that a loop is written with. -/
def Loop.written : Value → List Value
  | .object fields =>
    match findField ["actionsIfTrue", "actions_if_true", "actions"] fields with
    | some (_, .list items) => items
    | _ => []
  | _ => []

lemma Loop.ofFields_spans {fields : Fields} {l : Loop} (h : Loop.ofFields fields = .ok l) :
    List.Forall₂ (fun v a => ∀ w, a = .wait w → Wait.Spans (Wait.written v) w.seconds)
      (Loop.written (.object fields)) l.body := by
  obtain ⟨-, -, body, -⟩ := ofFields_ok.mp h
  unfold Loop.written
  dsimp only
  rcases optional_ok.mp body with ⟨missing, default⟩ | ⟨⟨name, v⟩, given, read⟩
  · rw [missing, ← default]
    exact .nil
  · obtain ⟨items, rfl, each⟩ := list_ok.mp read
    have read : List.Forall₂ (fun v a => SubAction.ofValue v = .ok a) items l.body := by
      have same : List.Forall₂ Eq (items.map SubAction.ofValue) (l.body.map .ok) := by
        rw [each]
        exact List.forall₂_refl _
      rwa [List.forall₂_map_left_iff, List.forall₂_map_right_iff] at same
    rw [given]
    refine read.imp fun v a parsed w same => ?_
    rw [same] at parsed
    exact Wait.subAction_spans parsed

/-- What is parsed is read by some model from the fields of an object. -/
lemma Registry.fields_of_parse {r : Registry} {v : Value} {a : Action}
    (h : (r.parse (.raw v)).1 = .ok a) : ∃ fields m, v = .object fields ∧
      Action.ofFields m fields = .ok a := by
  cases v with
  | object fields =>
    refine ⟨fields, ?_⟩
    change readFields (r.modelFor (tagOf fields)) fields = .ok a at h
    revert h
    rcases r.modelFor (tagOf fields) with _ | m | _ <;> intro h
    · exact ⟨.unknown, rfl, congrArg _ (Except.ok.inj h)⟩
    · rcases read : Action.ofFields m fields with faults | b
      · simp [readFields, read] at h
      · simp only [readFields, read, Except.ok.injEq] at h
        exact ⟨m, rfl, h ▸ read⟩
    · cases h
  | _ => cases h

lemma Action.model_of_ofFields {m : Model} {fields : Fields} {a : Action}
    (h : ofFields m fields = .ok a) : a.model = m := by
  cases m with
  | unknown => exact congrArg model (Except.ok.inj h).symm
  | _ =>
    obtain ⟨_, -, rfl⟩ := Checked.map_ok.mp h
    rfl

/-- Whatever waits a parsed action holds, their seconds are those that are written. -/
theorem Registry.waits_spanned (r : Registry) {v : Value} {a : Action}
    (h : (r.parse (.raw v)).1 = .ok a) :
    (∀ w, a = .wait w → Wait.Spans (Wait.written v) w.seconds) ∧
    ∀ l, a = .loopUntil l → List.Forall₂
      (fun item s => ∀ w, s = .wait w → Wait.Spans (Wait.written item) w.seconds)
      (Loop.written v) l.body := by
  obtain ⟨fields, m, rfl, read⟩ := fields_of_parse h
  have model : a.model = m := Action.model_of_ofFields read
  constructor
  · rintro w rfl
    obtain rfl : Model.wait = m := model
    obtain ⟨u, read, same⟩ := Checked.map_ok.mp read
    cases same
    exact Wait.ofFields_spans read
  · rintro l rfl
    obtain rfl : Model.loopUntil = m := model
    obtain ⟨u, read, same⟩ := Checked.map_ok.mp read
    cases same
    exact Loop.ofFields_spans read

/-- A loop with two waits of no seconds, one of them in words. -/
def twoWaits : Value := .object [("type", .text "loopUntil"), ("xpath", .text "//input"),
  ("actions", .list [.object [("type", .text "wait"), ("seconds", .int 0)],
    .object [("type", .text "wait"), ("seconds", .text "0.0")]])]

theorem Registry.waits_spanned_twice : ∃ l,
    (standard.parse (.raw twoWaits)).1 = .ok (.loopUntil l) ∧
    List.Forall₂ (fun item s => ∀ w, s = .wait w → Wait.Spans (Wait.written item) w.seconds)
      [.object [("type", .text "wait"), ("seconds", .int 0)],
        .object [("type", .text "wait"), ("seconds", .text "0.0")]] l.body ∧
    l.body = [.wait { seconds := 1 }, .wait { seconds := 0 }] := by
  let l : Loop := ⟨"//input", [.wait { seconds := 1 }, .wait { seconds := 0 }], none⟩
  have parsed : (standard.parse (.raw twoWaits)).1 = .ok (.loopUntil l) := by rfl
  exact ⟨l, parsed, (waits_spanned standard parsed).2 l rfl, rfl⟩

/-- Text that spells zero is taken at its word. -/
theorem Registry.spelled_zero_kept : ∃ w, (standard.parse (.raw (.object
      [("type", .text "wait"), ("seconds", .text "0")]))).1 = .ok (.wait w) ∧
    ¬ 0 < w.seconds ∧ w.seconds ≠ 1 := by
  refine ⟨{ seconds := 0 }, rfl, by decide, ?_⟩
  intro same
  have differ : ((0 : Float) == 0) ≠ ((1 : Float) == 0) := by decide
  exact differ (congrArg (· == 0) same)

end Rehearsal
