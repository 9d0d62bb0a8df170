import Rehearsal.Proofs.ActionCourse
import Rehearsal.Proofs.Exchanges

/-!
# What the diagnosis of a failure leaves in the journal

A failure is looked into by asking for the title of the page, once at most, and it is
documented by one screenshot at most. Besides these two calls there are only answers that
are given to dialogs meanwhile.
-/

namespace Rehearsal

open Play

/-- A stage with the same calls behind it. -/
def Stage.Silent {τ : Type} (s t : Stage τ) : Prop := t.trace = s.trace

instance {τ : Type} : Std.Refl (@Stage.Silent τ) where
  refl _ := rfl

instance {τ : Type} : IsTrans (Stage τ) Stage.Silent where
  trans _ _ _ h k := k.trans h

/-- No call, or one call and the answers to the dialogs that it brings up. -/
inductive AtMost {τ : Type} (asked : Call τ → Prop) : List (Call τ) → Prop
  | none : AtMost asked []
  | once (c : Call τ) (h : asked c) (answers : List (Call τ)) (ha : ∀ d ∈ answers, d.isAnswer) :
      AtMost asked (c :: answers)

lemma AtMost.mono {τ : Type} {asked told : Call τ → Prop} {calls : List (Call τ)}
    (h : AtMost asked calls) (more : ∀ c, asked c → told c) : AtMost told calls := by
  cases h with
  | none => exact .none
  | once c h answers ha => exact .once c (more c h) answers ha

section Silence

variable {τ α β : Type} {E : Prop}

/-- What comes after the calls does not add to them. -/
lemma bind_silent {p : Play τ α} {f : α → Play τ β} (hf : ∀ a, Within Stage.Silent True (f a))
    (s : Stage τ) : ((p >>= f) s).2.trace = (p s).2.trace := by
  rcases h : p s with ⟨a | e | _, t⟩
  · rw [bind_done h]
    exact (hf a t).1
  · rw [bind_failed h]
  · rw [bind_endless h]

lemma ensureActive_silent (timeout : Int) (page : Nat) :
    Within Stage.Silent E (Session.ensureActive timeout page : Play τ Nat) := by
  intro s
  unfold Session.ensureActive
  split
  · exact ⟨rfl, fun h => by cases h⟩
  · split <;> exact ⟨rfl, fun h => by cases h⟩

variable [Clock τ]

lemma saveImage_silent (path : Path) :
    Within Stage.Silent E (Browser.saveImage path : Play τ Unit) := by
  intro s
  unfold Browser.saveImage
  split
  · exact ⟨rfl, fun h => by cases h⟩
  · exact ⟨rfl, fun h => by cases h⟩
  · split <;> exact ⟨rfl, fun h => by cases h⟩

/-- A call on a page is put down, and its script can bring up dialogs. -/
lemma call_trace (id : Nat) (c : PageCall) (s : Stage τ) : ∃ answers,
    (Browser.call id c s).2.trace = s.trace ++ .page id c :: answers ∧
      ∀ d ∈ answers, d.isAnswer := by
  obtain ⟨answers, hj, ha⟩ := (Browser.enter_quiet id (.page id c) c.name s).1.journal
  refine ⟨answers.reverse, ?_, fun d hd => ha d (List.mem_reverse.mp hd)⟩
  have trace := congrArg List.reverse hj
  rw [List.reverse_append] at trace
  refine Eq.trans trace ?_
  simp [Stage.note, Stage.trace]

end Silence

namespace Screenshot.Camera

variable {τ : Type} [Clock τ] (c : Camera)

lemma shoot_trace (id : Nat) (path : Path) (s : Stage τ) : ∃ calls,
    (c.shoot id path s).2.trace = s.trace ++ calls ∧
      AtMost (fun d => ∃ shot, d = .page id (.screenshot shot)) calls := by
  rcases c.shoot_cases id path s with ⟨f, -, h⟩ | ⟨files, -, h⟩
  · exact ⟨[], by rw [h, List.append_nil], .none⟩
  · obtain ⟨answers, ht, ha⟩ := call_trace id (.screenshot (c.exposure path)) { s with files }
    refine ⟨_, ?_, .once _ ⟨c.exposure path, rfl⟩ answers ha⟩
    rw [h]
    exact (bind_silent (fun _ => saveImage_silent path) _).trans ht

lemma capture_trace (page : Option Nat) (label : String) (attempt : Option Int) (s : Stage τ) :
    ∃ calls, (c.capture page label attempt s).2.trace = s.trace ++ calls ∧
      AtMost (fun d => ∃ id shot, page = some id ∧ d = .page id (.screenshot shot)) calls := by
  have still {t : Stage τ} (h : t = s) : t.trace = s.trace ++ [] := by rw [h, List.append_nil]
  rcases page with _ | id
  · exact ⟨[], still rfl, .none⟩
  rcases hc : s.isClosed id with _ | _
  · rcases moment_cases s with ⟨m, -, hm⟩ | ⟨f, hm⟩
    · obtain ⟨calls, ht, shot⟩ := shoot_trace c id (c.fileFor label attempt m) s
      have once : AtMost (fun d => ∃ i shot, some id = some i ∧ d = .page i (.screenshot shot))
          calls := shot.mono fun d ⟨exposure, hd⟩ => ⟨id, exposure, rfl, hd⟩
      have ends : Within (Deeds 0 noRecord) False (c.shoot id (c.fileFor label attempt m) :
        Play τ Unit) := shoot_deeds c id _
      rcases hs : c.shoot id (c.fileFor label attempt m) s with ⟨⟨⟩ | f | _, t⟩ <;> rw [hs] at ht
      · exact ⟨calls, by rw [capture_shot hc hm hs, ht], once⟩
      · exact ⟨calls, by rw [capture_unshot hc hm hs, ht], once⟩
      · exact absurd (congrArg Prod.fst hs) (ends.ends s)
    · exact ⟨[], still (by rw [capture_untold hc hm]), .none⟩
  · exact ⟨[], still (by rw [capture_closed hc]), .none⟩

/-- At most one screenshot is taken for a record, of the page that it is about. -/
lemma record_trace (page : Option Nat) (caption : Caption) (attempt : Option Int) (s : Stage τ) :
    ∃ calls, (c.record page caption attempt s).2.trace = s.trace ++ calls ∧
      AtMost (fun d => ∃ id shot, page = some id ∧ d = .page id (.screenshot shot)) calls := by
  obtain ⟨calls, ht, once⟩ := capture_trace c page caption.step attempt s
  refine ⟨calls, (bind_silent (fun path => ?_) s).trans ht, once⟩
  cases path with
  | none => exact .pure _
  | some path =>
    exact .bind .moment fun m => .bind (.change fun s => rfl) fun _ => .pure _

end Screenshot.Camera

namespace Run

variable (settings : Settings)

/-- At most the title is asked for, of a page that is open. -/
lemma lookInto_trace (page : Nat) (s : Stage Float) :
    ∃ calls, (lookInto settings page s).2.trace = s.trace ++ calls ∧
      AtMost (fun d => d = .page page .title ∧ s.isClosed page = false) calls := by
  have last : Within Stage.Silent True (do
      let shown ← Play.attempt (Session.ensureActive (settings .browserTimeout) page)
      return shown.toOption : Play Float (Option Nat)) :=
    .bind (ensureActive_silent _ _).attempt fun _ => .pure _
  unfold lookInto
  rw [bind_done (look_run _ s)]
  cases closed : s.isClosed page with
  | false =>
    obtain ⟨answers, ht, ha⟩ := call_trace page .title s
    have asked : (Play.attempt (Browser.title page) s).2 = (Browser.call page .title s).2 :=
      (attempt_stage _ s).trans (bind_pure_stage _ _ s)
    refine ⟨.page page .title :: answers, ?_, .once _ ⟨rfl, rfl⟩ answers ha⟩
    rw [← ht, ← asked]
    exact bind_silent (fun _ => last) s
  | true => exact ⟨[], by rw [List.append_nil]; exact (last s).1, .none⟩

variable {settings}

/-- The calls by which a failure is told of. -/
lemma diagnosis_trace {index : Nat} {a : Action} {f : Failure} {page : Nat}
    {shown : Option Nat} {t v w : Stage Float} {e : Ending (Option Record)}
    (hl : lookInto settings page t = (.done shown, v))
    (hc : (Point.ofError index a shown f v).capture settings v = (e, w)) :
    ∃ title shot, w.trace = t.trace ++ (title ++ shot) ∧
      AtMost (fun c => c = .page page .title ∧ t.isClosed page = false) title ∧
      AtMost (fun c => ∃ id e, c = .page id (.screenshot e)) shot := by
  obtain ⟨title, looked, asked⟩ := lookInto_trace settings page t
  obtain ⟨shot, documented, once⟩ := Screenshot.Camera.record_trace (.ofSettings settings) shown
    (Point.ofError index a shown f v).caption none v
  rw [hl] at looked
  have last : w.trace = v.trace ++ shot := (congrArg (·.2.trace) hc).symm.trans documented
  refine ⟨title, shot, ?_, asked, once.mono fun c ⟨id, e, _, hc⟩ => ⟨id, e, hc⟩⟩
  rw [last, looked, List.append_assoc]

end Run

end Rehearsal
