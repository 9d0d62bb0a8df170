import Mathlib.Data.List.Nodup
import Rehearsal.Proofs.RunDeeds

/-!
# The points of a run at which it wants a screenshot

A capture point is a mark, which says what the run has just done, with the page to be
shown and the stage as the capture finds it. A point leaves one record or none, and
it is known exactly when it leaves none.
-/

namespace Rehearsal

open Play

section Camera

variable {τ : Type} [Clock τ]

lemma moment_cases (s : Stage τ) :
    (∃ m, Clock.moment s.epoch s.now = .ok m ∧ Play.moment s = (.done m, s)) ∨
    ∃ f, Play.moment s = (.failed (.clock f), s) := by
  unfold Play.moment
  rcases h : Clock.moment s.epoch s.now with f | m
  · exact .inr ⟨f, by simp⟩
  · exact .inl ⟨m, rfl, by simp⟩

lemma moment_failed {s t : Stage τ} {f : Failure} (h : Play.moment s = (.failed f, t)) :
    t = s ∧ ∃ g, f = .clock g ∧ Clock.moment s.epoch s.now = .error g := by
  unfold Play.moment at h
  split at h
  · cases h
  · next g hg =>
    cases h
    exact ⟨rfl, g, rfl, hg⟩

namespace Screenshot.Camera

variable {c : Camera} {s t : Stage τ} {id : Nat} {label : String} {attempt : Option Int}

lemma shoot_cases (c : Camera) (id : Nat) (path : Path) (s : Stage τ) :
    (∃ f, s.files.makeDirectory c.directory = .error f ∧
      c.shoot id path s = (.failed (.file f), s)) ∨
    ∃ files, s.files.makeDirectory c.directory = .ok files ∧
      c.shoot id path s = Browser.screenshot id path (c.exposure path) { s with files } := by
  unfold shoot
  rcases h : s.files.makeDirectory c.directory with f | files
  · refine .inl ⟨f, rfl, bind_failed ?_⟩
    simp [Play.fileWork, h]
  · have made : Play.fileWork (·.makeDirectory c.directory) s =
        (.done (), { s with files }) := by
      simp [Play.fileWork, h]
    exact .inr ⟨files, rfl, bind_done made⟩

lemma capture_absent : c.capture none label attempt s = (.done none, s) := rfl

lemma capture_closed (hc : s.isClosed id = true) :
    c.capture (some id) label attempt s = (.done none, s) := by
  simp [capture, bind_run, hc]

lemma capture_untold (hc : s.isClosed id = false) {f : Failure}
    (hm : Play.moment s = (.failed f, s)) :
    c.capture (some id) label attempt s = (.failed f, s) := by
  simp [capture, bind_run, hc, hm]

/-- On an open page, at a moment of the calendar, all is up to the directory and the driver. -/
lemma capture_shot (hc : s.isClosed id = false) {m : Moment}
    (hm : Play.moment s = (.done m, s))
    (hs : c.shoot id (c.fileFor label attempt m) s = (.done (), t)) :
    c.capture (some id) label attempt s = (.done (some (c.fileFor label attempt m)), t) := by
  simp [capture, bind_run, hc, hm, attempt_done hs]

lemma capture_unshot (hc : s.isClosed id = false) {m : Moment}
    (hm : Play.moment s = (.done m, s)) {f : Failure}
    (hs : c.shoot id (c.fileFor label attempt m) s = (.failed f, t)) :
    c.capture (some id) label attempt s = (.done none, t) := by
  simp [capture, bind_run, hc, hm, attempt_failed hs]

variable {page : Option Nat} {caption : Caption}

lemma record_none (h : c.capture page caption.step attempt s = (.done none, t)) :
    c.record page caption attempt s = (.done none, t) := by
  rw [record, bind_done h]
  rfl

lemma record_failed {f : Failure} (h : c.capture page caption.step attempt s = (.failed f, t)) :
    c.record page caption attempt s = (.failed f, t) :=
  bind_failed h

lemma record_some {path : Path}
    (h : c.capture page caption.step attempt s = (.done (some path), t)) {m : Moment}
    (hm : Play.moment t = (.done m, t)) :
    c.record page caption attempt s = (.done (some (caption.recordOf path m)),
      { t with ledger := caption.recordOf path m :: t.ledger }) := by
  rw [record, bind_done h]
  simp [bind_run, hm]

lemma record_untold {path : Path}
    (h : c.capture page caption.step attempt s = (.done (some path), t)) {f : Failure}
    (hm : Play.moment t = (.failed f, t)) :
    c.record page caption attempt s = (.failed f, t) := by
  rw [record, bind_done h]
  simp [bind_run, hm]

lemma capture_clock {f : Failure} (h : c.capture page label attempt s = (.failed f, t)) :
    ∃ g, f = .clock g ∧ Clock.moment t.epoch t.now = .error g := by
  cases page with
  | none => cases h
  | some id =>
    unfold capture at h
    dsimp only at h
    rw [bind_done (look_run _ s)] at h
    split at h
    · cases h
    · rcases failed_of_bind h with untold | ⟨m, u, -, after⟩
      · obtain ⟨rfl, untold⟩ := moment_failed untold
        exact untold
      · rcases failed_of_bind after with shot | ⟨r, v, -, after⟩
        · unfold Play.attempt at shot
          split at shot <;> cases shot
        · split at after <;> cases after

/-- Only a clock that shows no calendar moment keeps a capture from coming to an end. -/
lemma record_clock {f : Failure} (h : c.record page caption attempt s = (.failed f, t)) :
    ∃ g, f = .clock g ∧ Clock.moment t.epoch t.now = .error g := by
  rcases failed_of_bind h with uncaptured | ⟨path, u, -, after⟩
  · exact capture_clock uncaptured
  · split at after
    · cases after
    · rcases failed_of_bind after with untold | ⟨m, v, -, after⟩
      · obtain ⟨rfl, untold⟩ := moment_failed untold
        exact untold
      · cases after

end Screenshot.Camera

end Camera

namespace Run

/-- What a run has just done when it wants a screenshot. -/
inductive Mark where
  | initial
  | loop (index : Nat) (attempt : Int)
  | action (index : Nat)
  | error (index : Nat)
  | final
deriving DecidableEq

/-- What records say about a mark. -/
def Mark.step : Mark → String
  | initial => "initial"
  | loop index _ => "action " ++ toString index ++ " loop"
  | action index => "action " ++ toString index
  | error index => "error on action " ++ toString index
  | final => "final"

/-- Only the attempts of a loop are counted. -/
def Mark.attempt : Mark → Option Int
  | loop _ n => some n
  | _ => none

lemma repr_cancel {i j : Nat} (h : i.repr = j.repr) : i = j := by
  have hd : Nat.toDigits 10 i = Nat.toDigits 10 j := by
    rw [← Nat.toList_repr, ← Nat.toList_repr, h]
  rw [← Nat.ofDigitChars_ten_toDigits (n := i), hd, Nat.ofDigitChars_ten_toDigits]

/-- The letter that a label begins with. -/
def Mark.letter : Mark → Char
  | initial => 'i'
  | loop .. | action _ => 'a'
  | error _ => 'e'
  | final => 'f'

lemma head_append {a b : String} {c : Char} (h : a.toList.head? = some c) :
    (a ++ b).toList.head? = some c := by
  rw [String.toList_append, List.head?_append, h, Option.some_or]

lemma Mark.head_step (m : Mark) : m.step.toList.head? = some m.letter := by
  have acted : "action ".toList.head? = some 'a' := by decide +kernel
  have erred : "error on action ".toList.head? = some 'e' := by decide +kernel
  cases m with
  | initial => exact (by decide +kernel : "initial".toList.head? = some 'i')
  | loop i n => exact head_append (head_append acted)
  | action i => exact head_append acted
  | error i => exact head_append erred
  | final => exact (by decide +kernel : "final".toList.head? = some 'f')

lemma append_cancel {a b c : String} (h : a ++ b = a ++ c) : b = c := by
  have hl := congrArg String.toList h
  simp only [String.toList_append, List.append_cancel_left_eq] at hl
  exact String.toList_injective hl

lemma append_cancel_right {a b c : String} (h : b ++ a = c ++ a) : b = c := by
  have hl := congrArg String.toList h
  simp only [String.toList_append, List.append_cancel_right_eq] at hl
  exact String.toList_injective hl

/-- Different marks have different labels, or are different attempts of one loop. -/
lemma mark_label_injective : Function.Injective fun m : Mark => (m.step, m.attempt) := by
  intro m n h
  obtain ⟨hs, ha⟩ := Prod.mk.inj h
  have hl : some m.letter = some n.letter := by
    rw [← m.head_step, ← n.head_step, hs]
  cases m <;> cases n <;>
    first
    | rfl
    | (simp only [Mark.letter] at hl; exact absurd (Option.some.inj hl) (by decide))
    | cases ha
  case loop.loop => rw [repr_cancel (append_cancel (append_cancel_right hs))]
  case action.action => rw [repr_cancel (append_cancel hs)]
  case error.error => rw [repr_cancel (append_cancel hs)]

/-- A mark with what its record will say, the page to be shown, if there is one, and the
stage on which the capture begins. -/
structure Point where
  mark : Mark
  page : Option Nat
  action : Option String := none
  selector : Value := .null
  error : Option String := none
  stage : Stage Float

namespace Point

open Screenshot

variable (settings : Settings) (p : Point)

def caption : Screenshot.Caption where
  step := p.mark.step
  action := p.action
  selector := p.selector
  error := p.error

/-- The capture and its record. -/
def capture : Play Float (Option Record) :=
  (Screenshot.Camera.ofSettings settings).record p.page p.caption p.mark.attempt

variable {settings p} in
lemma deeds_of_capture {s t : Stage Float} {e : Ending (Option Record)}
    (h : p.capture settings s = (e, t)) : Deeds (settings .browserTimeout) anyRecord s t :=
  (Screenshot.Camera.record_deeds (E := True) _ _ _ _ fun _ _ => trivial).stage h

/-- The record that the point leaves, if any. -/
def entry : Option Record :=
  match (p.capture settings p.stage).1 with
  | .done r => r
  | _ => none

/-- No picture can be had: there is no page or it is closed, the directory cannot be made,
or the call for the screenshot fails. -/
inductive Missed : Prop
  | absent (h : p.page = none)
  | closed (id : Nat) (h : p.page = some id) (hc : p.stage.isClosed id = true)
  | directory (f : FileFault)
      (hd : p.stage.files.makeDirectory (settings .screenshotsDir) = .error f)
  | screenshot (id : Nat) (h : p.page = some id) (m : Moment)
      (hm : Clock.moment p.stage.epoch p.stage.now = .ok m) (files : Files)
      (hd : p.stage.files.makeDirectory (settings .screenshotsDir) = .ok files) (f : Failure)
      (hs : let camera := Screenshot.Camera.ofSettings settings
        let path := camera.fileFor p.mark.step p.mark.attempt m
        (Browser.screenshot id path (camera.exposure path) { p.stage with files }).1 = .failed f)

/-- The clock has no calendar moment for the capture or for its record. -/
def Untold : Prop := ∃ f, (p.capture settings p.stage).1 = .failed (.clock f)

variable {settings p} in
lemma told {r : Option Record} {t : Stage Float} (h : p.capture settings p.stage = (.done r, t)) :
    ¬ p.Untold settings := by
  rintro ⟨f, hf⟩
  cases (congrArg Prod.fst h).symm.trans hf

/-- How a capture goes: the clock stops it, no picture can be had, or its record is put down. -/
inductive Captured : Prop
  | untold (f : ClockFault) (t : Stage Float)
      (h : p.capture settings p.stage = (.failed (.clock f), t))
      (hl : t.ledger = p.stage.ledger)
  | missed (t : Stage Float) (h : p.capture settings p.stage = (.done none, t))
      (hm : p.Missed settings) (hl : t.ledger = p.stage.ledger)
  | recorded (r : Record) (t : Stage Float)
      (h : p.capture settings p.stage = (.done (some r), t))
      (hm : ¬ p.Missed settings) (hr : r.step = p.mark.step)
      (hl : t.ledger = r :: p.stage.ledger)

/-- A picture was taken, so nothing stood in its way. -/
lemma not_missed {id : Nat} (hp : p.page = some id) (hc : p.stage.isClosed id = false)
    {m : Moment} (hcal : Clock.moment p.stage.epoch p.stage.now = .ok m) {files : Files}
    (hd : p.stage.files.makeDirectory (settings .screenshotsDir) = .ok files) {t : Stage Float}
    (hs : let camera := Camera.ofSettings settings
      let path := camera.fileFor p.mark.step p.mark.attempt m
      Browser.screenshot id path (camera.exposure path) { p.stage with files } = (.done (), t)) :
    ¬ p.Missed settings := by
  rintro (h | ⟨other, h, closed⟩ | ⟨f, failed⟩ | ⟨other, h, n, hn, made, hm, f, failed⟩)
  · rw [hp] at h
    cases h
  · rw [hp] at h
    cases h
    rw [hc] at closed
    cases closed
  · rw [hd] at failed
    cases failed
  · rw [hp] at h
    rw [hcal] at hn
    rw [hd] at hm
    cases h
    cases hn
    cases hm
    dsimp only at hs failed
    rw [hs] at failed
    cases failed

lemma captured_open {id : Nat} (hp : p.page = some id) (hc : p.stage.isClosed id = false)
    {m : Moment} (hcal : Clock.moment p.stage.epoch p.stage.now = .ok m)
    (hm : Play.moment p.stage = (.done m, p.stage)) : p.Captured settings := by
  let camera := Camera.ofSettings settings
  let path := camera.fileFor p.mark.step p.mark.attempt m
  have unshot {f : Failure} {t : Stage Float}
      (shot : camera.shoot id path p.stage = (.failed f, t)) :
      p.capture settings p.stage = (.done none, t) := by
    refine Camera.record_none ?_
    rw [hp]
    exact Camera.capture_unshot hc hm shot
  rcases camera.shoot_cases id path p.stage with ⟨f, hd, shot⟩ | ⟨files, hd, shot⟩
  · exact .missed _ (unshot shot) (.directory f hd) rfl
  have quiet : Within (Deeds 0 noRecord) False
      (Browser.screenshot id path (camera.exposure path) : Play Float Unit) :=
    Browser.screenshot_deeds id path _
  rcases hs : Browser.screenshot id path (camera.exposure path) { p.stage with files } with
    ⟨u | f | _, t⟩
  · have taken : camera.capture p.page p.caption.step p.mark.attempt p.stage =
        (.done (some path), t) := by
      rw [hp]
      exact Camera.capture_shot hc hm (shot.trans hs)
    have same : t.ledger = p.stage.ledger := (quiet.stage hs).ledger
    rcases moment_cases t with ⟨n, _, hn⟩ | ⟨f, hf⟩
    · let r := p.caption.recordOf path n
      have told : p.capture settings p.stage =
          (.done (some r), { t with ledger := r :: t.ledger }) := by
        unfold capture
        exact Camera.record_some taken hn
      have grown : r :: t.ledger = r :: p.stage.ledger := by rw [same]
      exact .recorded r _ told (p.not_missed settings hp hc hcal hd hs) rfl grown
    · exact .untold f t (Camera.record_untold taken hf) same
  · exact .missed t (unshot (shot.trans hs))
      (.screenshot id hp m hcal files hd f (congrArg Prod.fst hs)) (quiet.stage hs).ledger
  · exact absurd (congrArg Prod.fst hs) (quiet.ends _)

theorem captured : p.Captured settings := by
  rcases hp : p.page with _ | id
  · refine .missed p.stage (Camera.record_none ?_) (.absent hp) rfl
    rw [hp]
    exact Camera.capture_absent
  rcases hc : p.stage.isClosed id with _ | _
  swap
  · refine .missed p.stage (Camera.record_none ?_) (.closed id hp hc) rfl
    rw [hp]
    exact Camera.capture_closed hc
  rcases moment_cases p.stage with ⟨m, hcal, hm⟩ | ⟨f, hm⟩
  · exact captured_open settings p hp hc hcal hm
  · refine .untold f p.stage (Camera.record_failed ?_) rfl
    rw [hp]
    exact Camera.capture_untold hc hm

end Point
end Run
end Rehearsal
