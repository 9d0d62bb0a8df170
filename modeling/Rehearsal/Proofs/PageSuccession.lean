import Rehearsal.Proofs.PageAges
import Rehearsal.Proofs.PopupSignals

/-!
# Which page a play goes on with

A play that gives a page to go on with gives the one that it was begun on, or a successor of it:
where the page has closed, another one, which has the session's limits. Attempts, sub-actions and
whole loops are put together from plays of this kind.
-/

namespace Rehearsal

open Play

/-- The page to go on with. -/
def Target.Turn.page : Turn → Nat
  | reached page | missed page _ => page

variable {τ α β : Type} {limit : Int} {page mid next : Nat}

/-- A page to go on with after another: the same, or, where that has closed, one that has the
session's limits. -/
inductive Stage.Successor (limit : Int) (page : Nat) (t : Stage τ) : Nat → Prop
  | same : Successor limit page t page
  | other {next : Nat} (shut : t.Shut page) (limited : t.Limited limit next) :
      Successor limit page t next

namespace Stage.Successor

variable {s t : Stage τ}

lemma known (h : t.Successor limit page next) (k : t.Known page) : t.Known next := by
  cases h with
  | same => exact k
  | other shut limited => exact limited.known

/-- A page that is open at the end has not been left. -/
lemma eq_of_open (h : t.Successor limit page next) (shown : t.isClosed page = false) :
    next = page := by
  cases h with
  | same => rfl
  | other shut limited =>
    have closed := shut.isClosed
    rw [shown] at closed
    cases closed

lemma limited (h : t.Successor limit page next) (k : t.Limited limit page) :
    t.Limited limit next := by
  cases h with
  | same => exact k
  | other shut limited => exact limited

lemma trans (h : s.Successor limit page mid) (aged : s.Ages limit t)
    (k : t.Successor limit mid next) : t.Successor limit page next := by
  cases h with
  | same => exact k
  | other shut limited => exact .other (aged.shut shut) (k.limited (aged.limited limited))

end Stage.Successor

/-- The pages of the stage age, and if the play gives something it gives a successor of the page;
`on` tells which. -/
def Play.Keeps (limit : Int) (page : Nat) (on : α → Nat) (p : Play τ α) : Prop :=
  ∀ s, s.Known page → s.Ages limit (p s).2 ∧
    ∀ a, (p s).1 = .done a → (p s).2.Successor limit page (on a)

namespace Play.Keeps

variable {on : α → Nat} {p : Play τ α}

lemma successor (goes : Keeps limit page on p) {s t : Stage τ} {a : α} (known : s.Known page)
    (h : p s = (.done a, t)) : t.Successor limit page (on a) := by
  have ends := (goes s known).2 a (congrArg Prod.fst h)
  rwa [h] at ends

lemma limited (goes : Keeps limit page on p) {s t : Stage τ} {a : α}
    (limited : s.Limited limit page) (h : p s = (.done a, t)) : t.Limited limit (on a) := by
  have aged := (goes s limited.known).1
  rw [h] at aged
  exact (goes.successor limited.known h).limited (aged.limited limited)

lemma pure {a : α} (same : on a = page) : Keeps limit page on (Pure.pure a : Play τ α) := by
  intro s known
  refine ⟨refl s, fun b done => ?_⟩
  cases done
  rw [same]
  exact .same

lemma fail (f : Failure) : Keeps limit page on (Play.fail f : Play τ α) :=
  fun s _ => ⟨refl s, nofun⟩

lemma bind {on' : β → Nat} {f : α → Play τ β} (hp : Keeps limit page on p)
    (hf : ∀ a, Keeps limit (on a) on' (f a)) : Keeps limit page on' (p >>= f) := by
  intro s known
  obtain ⟨aged, ends⟩ := hp s known
  rcases hps : p s with ⟨a | e | _, t⟩ <;> rw [hps] at aged ends
  · have mid := ends a rfl
    obtain ⟨later, last⟩ := hf a t (mid.known (aged.known known))
    rw [bind_done hps]
    exact ⟨IsTrans.trans _ _ _ aged later, fun b done => mid.trans later (last b done)⟩
  · rw [bind_failed hps]
    exact ⟨aged, nofun⟩
  · rw [bind_endless hps]
    exact ⟨aged, nofun⟩

/-- A failure that is put aside leaves the page alone. -/
lemma attempt (hp : Keeps limit page on p) :
    Keeps limit page (fun r : Except Failure α => (r.toOption.map on).getD page)
      (Play.attempt p) := by
  intro s known
  obtain ⟨aged, ends⟩ := hp s known
  rcases hps : p s with ⟨a | e | _, t⟩ <;> rw [hps] at aged ends
  · rw [attempt_done hps]
    refine ⟨aged, fun r done => ?_⟩
    cases done
    exact ends a rfl
  · rw [attempt_failed hps]
    refine ⟨aged, fun r done => ?_⟩
    cases done
    exact .same
  · rw [attempt_endless hps]
    exact ⟨aged, nofun⟩

variable [Clock τ]

/-- What a session does on its pages does not say which of them it goes on with. -/
lemma of_deeds (h : Within (Deeds limit Run.anyRecord) True p) (same : ∀ a, on a = page) :
    Keeps limit page on p := by
  intro s known
  refine ⟨(h s).1.ages, fun a _ => ?_⟩
  rw [same]
  exact .same

lemma after {on' : β → Nat} {f : α → Play τ β} (h : Within (Deeds limit Run.anyRecord) True p)
    (hf : ∀ a, Keeps limit page on' (f a)) : Keeps limit page on' (p >>= f) := by
  have stayed : Keeps limit page (fun _ => page) p := of_deeds h fun _ => rfl
  exact stayed.bind hf

end Play.Keeps

namespace Session

variable {s t : Stage τ}

/-- The page itself if it is open, else the newest open one, which gets the limits. -/
lemma ensureActive_done (h : ensureActive limit page s = (.done next, t)) :
    (s.isClosed page = false ∧ next = page ∧ t = s) ∨
      (s.isClosed page = true ∧ s.openPages.getLast? = some next ∧
        t = s.configureTimeouts next limit) := by
  unfold ensureActive at h
  cases closed : s.isClosed page with
  | false =>
    rw [closed] at h
    cases h
    exact .inl ⟨rfl, rfl, rfl⟩
  | true =>
    rw [closed] at h
    rcases last : s.openPages.getLast? with _ | other <;> rw [last] at h <;> cases h
    exact .inr ⟨rfl, rfl, rfl⟩

variable [Clock τ]

lemma ensureActive_keeps : Keeps limit page id (ensureActive limit page : Play τ Nat) := by
  intro s known
  have active : Within (Deeds limit Run.anyRecord) True (ensureActive limit page : Play τ Nat) :=
    ensureActive_deeds page
  have aged : s.Ages limit (ensureActive limit page s).2 := (active s).1.ages
  refine ⟨aged, fun next done => ?_⟩
  rcases h : ensureActive limit page s with ⟨e, t⟩
  rw [h] at aged done
  cases done
  rcases ensureActive_done h with ⟨-, rfl, -⟩ | ⟨closed, last, rfl⟩
  · exact .same
  · have shown : s.isClosed next = false := Popup.openPages_open (List.mem_of_getLast? last)
    exact .other (aged.shut (known.shut closed)) ((Stage.known_of_open shown).configured limit)

lemma settle_keeps (delay : τ) : Keeps limit page id (settle limit page delay) :=
  .after (pause_deeds delay) fun _ => ensureActive_keeps

end Session

namespace Target

variable [Clock τ] (plan : LoopPlan τ)

lemma runSubAction_keeps (a : SubAction) :
    Keeps plan.pageTimeout page id (runSubAction plan page a) := by
  cases a with
  | click c => exact .after (Browser.click_deeds page _ _) fun _ => .pure rfl
  | type e => exact .after (Browser.fill_deeds page _ _ _) fun _ => .pure rfl
  | wait w =>
    refine Session.ensureActive_keeps.bind fun other => ?_
    exact .after (wait_deeds other _) fun _ => .pure rfl

lemma runSubActions_keeps (body : List SubAction) :
    Keeps plan.pageTimeout page Reach.page (runSubActions plan page body) := by
  induction body generalizing page with
  | nil => exact .pure rfl
  | cons a rest ih =>
    refine (runSubAction_keeps plan a).attempt.bind fun r => ?_
    cases r with
    | ok other => exact ih
    | error f => exact .pure rfl

lemma finishAttempt_keeps :
    Keeps plan.pageTimeout page Reach.page (finishAttempt plan page) := by
  refine Session.ensureActive_keeps.attempt.bind fun r => ?_
  cases r with
  | error f => exact .pure rfl
  | ok other => exact .after (sleep_deeds _) fun _ => .pure rfl

lemma loopAttempt_keeps (l : Loop) (reference : String) :
    Keeps plan.pageTimeout page Reach.page (loopAttempt plan l reference page) := by
  refine .after (fieldValue_deeds page _).attempt fun r => ?_
  cases r with
  | error f => exact .pure rfl
  | ok value =>
    dsimp only
    split
    · exact .pure rfl
    · refine (runSubActions_keeps plan l.body).bind fun reach => ?_
      split
      · exact finishAttempt_keeps plan
      · exact .pure rfl

lemma takeTurn_keeps (l : Loop) (reference : String) :
    Keeps plan.pageTimeout page Turn.page (takeTurn plan l reference page) := by
  refine (loopAttempt_keeps plan l reference).bind fun reach => ?_
  split
  · exact .pure rfl
  · exact .pure rfl
  · next f _ =>
    have again : Keeps plan.pageTimeout reach.page Turn.page (do
        let page ← Session.ensureActive plan.pageTimeout reach.page
        return .missed page (some f.message) : Play τ Turn) :=
      Session.ensureActive_keeps.bind fun other => .pure rfl
    dsimp only
    split
    · exact .after (.fail f) fun _ => again
    · exact again

/-- However its sub-actions swap pages, a loop leaves a page only where it has closed. -/
lemma loopFrom_keeps (l : Loop) (reference : String) (bound : Int)
    {hook : Nat → Int → Play τ Unit}
    (hooked : ∀ page n, Within (Deeds plan.pageTimeout Run.anyRecord) True (hook page n))
    (attempt : Int) (lastError : Option String) (left : Nat) : Keeps plan.pageTimeout page id
      (loopFrom plan l reference bound hook attempt page lastError left) := by
  induction left generalizing page attempt lastError with
  | zero => exact .fail _
  | succ left ih =>
    refine (takeTurn_keeps plan l reference).bind fun turn => ?_
    cases turn with
    | reached other => exact .pure rfl
    | missed other error => exact .after (hooked other attempt) fun _ => ih _ _

end Target

end Rehearsal
