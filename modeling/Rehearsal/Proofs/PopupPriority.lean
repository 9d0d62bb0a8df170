import Rehearsal.Proofs.PopupSignals
import Rehearsal.Proofs.TargetDeeds

/-!
# Which page a search for popups settles on

A search settles on the first signal in the order of their confidence: an open page on a
wanted domain before any poll, then what the first poll sees that sees a page, and only when
the window has passed the current page with its frames, and last any other open page.
-/

namespace Rehearsal.Popup

open Play

variable {τ : Type} [Clock τ] (plan : Plan τ) (w : Wanted)

/-- So many polls have seen nothing and have not been the last. -/
inductive Polls (deadline : τ) : Stage τ → Nat → Stage τ → Prop
  | none (s : Stage τ) : Polls deadline s 0 s
  | again {s t : Stage τ} {n : Nat} (unsignalled : Unsignalled w s)
      (early : Clock.le deadline s.now = false)
      (later : Polls deadline (s.sleep plan.pollInterval) n t) : Polls deadline s (n + 1) t

/-- How the polls end. -/
inductive Polled (deadline : τ) (turns : Nat) (s : Stage τ) :
    Ending (Option Nat) → Stage τ → Prop
  | signalled {n : Nat} {t : Stage τ} (polls : Polls plan w deadline s n t) {id : Nat}
      (h : Signalled w t id) : Polled deadline turns s (.done (some id)) t
  | elapsed {n : Nat} {t : Stage τ} (polls : Polls plan w deadline s n t)
      (unsignalled : Unsignalled w t) (late : Clock.le deadline t.now = true) :
      Polled deadline turns s (.done none) t
  | unanswered {n : Nat} {t : Stage τ} (polls : Polls plan w deadline s n t) {f : Failure}
      (h : Unanswered w t f) : Polled deadline turns s (.failed f) t
  | endless {t : Stage τ} (polls : Polls plan w deadline s turns t) :
      Polled deadline turns s .endless t

variable {plan w} in
lemma Polled.again {deadline : τ} {turns : Nat} {s t : Stage τ} {e : Ending (Option Nat)}
    (unsignalled : Unsignalled w s) (early : Clock.le deadline s.now = false)
    (h : Polled plan w deadline turns (s.sleep plan.pollInterval) e t) :
    Polled plan w deadline (turns + 1) s e t := by
  cases h with
  | signalled polls h => exact .signalled (.again unsignalled early polls) h
  | elapsed polls none late => exact .elapsed (.again unsignalled early polls) none late
  | unanswered polls h => exact .unanswered (.again unsignalled early polls) h
  | endless polls => exact .endless (.again unsignalled early polls)

/-- Polling goes on as long as nothing is seen and there is time left. -/
theorem polled (deadline : τ) (turns : Nat) (s : Stage τ) :
    ∃ e t, poll plan w deadline turns s = (e, t) ∧ Polled plan w deadline turns s e t := by
  induction turns generalizing s with
  | zero => exact ⟨.endless, s, rfl, .endless (.none s)⟩
  | succ turns ih =>
    unfold poll
    rcases signal_cases w s with ⟨id, seen, signalled⟩ | ⟨unseen, unsignalled⟩ | ⟨f, failed, asked⟩
    · rw [bind_done (examine_ok seen)]
      exact ⟨.done (some id), s, rfl, .signalled (.none s) signalled⟩
    · rw [bind_done (examine_ok unseen)]
      dsimp only
      rw [bind_done (look_run _ s)]
      cases late : Clock.le deadline s.now with
      | true => exact ⟨.done none, s, rfl, .elapsed (.none s) unsignalled late⟩
      | false =>
        obtain ⟨e, t, later, course⟩ := ih (s.sleep plan.pollInterval)
        exact ⟨e, t, later, course.again unsignalled late⟩
    · rw [bind_failed (examine_error failed)]
      exact ⟨.failed f, s, rfl, .unanswered (.none s) asked⟩

/-- Moving to a page succeeds, whatever the page does meanwhile. -/
lemma accept_done (page : Nat) (s : Stage τ) : ∃ t, accept plan page s = (.done page, t) := by
  have waited (state : String) (u : Stage τ) :
      ∃ b v, Browser.waitForState page state plan.loadTimeout u = (.done b, v) := by
    have ends : Within (Deeds 0 noRecord) False
        (Browser.waitForLoadState page state plan.loadTimeout : Play τ Unit) :=
      Browser.call_deeds page _
    obtain ⟨r, v, attempted⟩ := ends.attempt_done u
    cases r with
    | ok _ => exact ⟨true, v, bind_done attempted⟩
    | error f => exact ⟨false, v, bind_done attempted⟩
  obtain ⟨ready, u, hu⟩ := waited "domcontentloaded" s
  obtain ⟨idle, v, hv⟩ := waited "networkidle" u
  have stabilized : Browser.stabilize page plan.loadTimeout s = (.done (ready && idle), v) :=
    (bind_done hu).trans (bind_done hv)
  have paused (x : Stage τ) : ∃ y, Play.pause plan.settleDelay x = (.done (), y) := by
    unfold Play.pause
    split
    · exact ⟨_, rfl⟩
    · exact ⟨x, rfl⟩
  obtain ⟨t, ht⟩ := paused (v.configureTimeouts page plan.pageTimeout)
  refine ⟨t, ?_⟩
  unfold accept
  rw [bind_done stabilized, bind_done (change_run _ v), bind_done ht]
  rfl

variable (s : Stage τ)

/-- The stage of the first poll. -/
def begun : Stage τ := (Play.pause plan.initialDelay s).2

/-- When the window has passed. -/
def deadline : τ := Clock.add (begun plan s).now plan.window

/-- No page was on a wanted domain, and this is a stage that the polls have come to. -/
structure Searching (t : Stage τ) : Prop where
  unmatched : ∀ b ∈ s.openPages, ¬ Matching w s b
  polls : ∃ n, Polls plan w (deadline plan s) (begun plan s) n t

/-- The window has passed on this stage, and no poll has seen anything. -/
structure Over (t : Stage τ) : Prop extends Searching plan w s t where
  unsignalled : Unsignalled w t
  late : Clock.le (deadline plan s) t.now = true

/-- A page that the search moves to, and the stage on which it is picked. -/
inductive Picked : Nat → Stage τ → Prop
  | existing {page : Nat} (newest : Newest (Matching w s) s.openPages page) : Picked page s
  | signalled {page : Nat} {t : Stage τ} (searching : Searching plan w s t)
      (h : Signalled w t page) : Picked page t
  | other {page : Nat} {t : Stage τ} (past : Over plan w s t) (outside : ¬ Inside w t)
      (newest : Newest (· ≠ w.current) t.openPages page) : Picked page t

/-- There is no signal left: the current page is not on a wanted domain, and no other is open. -/
structure Alone (t : Stage τ) : Prop extends Over plan w s t where
  outside : ¬ Inside w t
  lone : ∀ b ∈ t.openPages, b = w.current

/-- The failure of a session without an open page. -/
def noPage : Failure :=
  .engine (.noActivePage "No active page available: every tab in the session was closed" [])

/-- How a search ends and on which stage. -/
inductive Decided : Ending Nat → Stage τ → Prop
  /-- It moves to the page that it has picked. -/
  | moved {page : Nat} {u t : Stage τ} (picked : Picked plan w s page u)
      (settled : accept plan page u = (.done page, t)) : Decided (.done page) t
  /-- It stays on the current page, which it does not touch. -/
  | inside {t : Stage τ} (past : Over plan w s t) (h : Inside w t) : Decided (.done w.current) t
  | missing {t : Stage τ} (alone : Alone plan w s t) (required : w.required = true) :
      Decided (.failed (notFound plan)) t
  | kept {t : Stage τ} (alone : Alone plan w s t) (optional : w.required = false)
      (shown : t.isClosed w.current = false) : Decided (.done w.current) t
  | pageless {t : Stage τ} (alone : Alone plan w s t) (optional : w.required = false)
      (closed : t.isClosed w.current = true) (none : t.openPages = []) :
      Decided (.failed noPage) t
  | unanswered {t : Stage τ} (reached : t = s ∨ Searching plan w s t) {f : Failure}
      (h : Unanswered w t f) : Decided (.failed f) t
  /-- The window does not pass as long as there is patience for. -/
  | endless {t : Stage τ} (unmatched : ∀ b ∈ s.openPages, ¬ Matching w s b)
      (polls : Polls plan w (deadline plan s) (begun plan s) (begun plan s).patience t) :
      Decided .endless t

variable {plan w s}

lemma Picked.decided {page : Nat} {u : Stage τ} (h : Picked plan w s page u) :
    ∃ e t, accept plan page u = (e, t) ∧ Decided plan w s e t := by
  obtain ⟨t, settled⟩ := accept_done plan page u
  exact ⟨.done page, t, settled, .moved h settled⟩

lemma Alone.decided {t : Stage τ} (h : Alone plan w s t) :
    ∃ e u, (if w.required then Play.fail (notFound plan)
      else Session.ensureActive plan.pageTimeout w.current : Play τ Nat) t = (e, u) ∧
        Decided plan w s e u := by
  cases required : w.required with
  | true => exact ⟨.failed (notFound plan), t, rfl, .missing h required⟩
  | false =>
    rw [if_neg Bool.false_ne_true]
    cases closed : t.isClosed w.current with
    | false =>
      refine ⟨.done w.current, t, ?_, .kept h required closed⟩
      rw [Session.ensureActive, closed]
      rfl
    | true =>
      have none : t.openPages = [] := by
        refine List.eq_nil_iff_forall_not_mem.mpr fun b hb => ?_
        have shown := openPages_open hb
        rw [h.lone b hb, closed] at shown
        cases shown
      refine ⟨_, t, ?_, .pageless h required closed none⟩
      rw [Session.ensureActive, closed, none]
      rfl

lemma Over.decided {t : Stage τ} (h : Over plan w s t) :
    ∃ e u, fallBack plan w t = (e, u) ∧ Decided plan w s e u := by
  unfold fallBack
  rcases inCurrent_cases w t with ⟨on, inside⟩ | ⟨off, outside⟩ | ⟨f, failed, asked⟩
  · rw [bind_done (examine_ok on)]
    exact ⟨.done w.current, t, rfl, .inside h inside⟩
  · rw [bind_done (examine_ok off), if_neg Bool.false_ne_true, bind_done (look_run _ t)]
    rcases anyOther_cases w t with ⟨page, found, newest⟩ | ⟨found, lone⟩
    · rw [found]
      exact (Picked.other h outside newest).decided
    · rw [found]
      exact Alone.decided ⟨h, outside, lone⟩
  · rw [bind_failed (examine_error failed)]
    exact ⟨.failed f, t, rfl, .unanswered (.inr h.toSearching) asked⟩

/-- Without an open page on a wanted domain the search polls, after its delay. -/
lemma switch_polling (h : existing s w = .ok none) : switch plan w s =
    (poll plan w (deadline plan s) (begun plan s).patience >>= fun found => match found with
      | some page => accept plan page
      | none => fallBack plan w : Play τ Nat) (begun plan s) := by
  have delayed : Play.pause plan.initialDelay s = (.done (), begun plan s) := by
    unfold begun Play.pause
    split <;> rfl
  exact (bind_done (examine_ok h)).trans (bind_done delayed)

/-- Every search ends as the first of its signals says. -/
lemma switch_ends (plan : Plan τ) (w : Wanted) (s : Stage τ) :
    ∃ e t, switch plan w s = (e, t) ∧ Decided plan w s e t := by
  rcases existing_cases w s with ⟨page, found, newest⟩ | ⟨found, unmatched⟩ | ⟨f, failed, asked⟩
  · have picked : Picked plan w s page s := .existing newest
    obtain ⟨e, t, settled, decided⟩ := picked.decided
    refine ⟨e, t, ?_, decided⟩
    rw [switch, bind_done (examine_ok found)]
    exact settled
  · rw [switch_polling found]
    obtain ⟨e, t, hp, course⟩ :=
      polled plan w (deadline plan s) (begun plan s).patience (begun plan s)
    cases course with
    | signalled polls h =>
      rw [bind_done hp]
      exact (Picked.signalled ⟨unmatched, _, polls⟩ h).decided
    | elapsed polls unsignalled late =>
      rw [bind_done hp]
      exact Over.decided ⟨⟨unmatched, _, polls⟩, unsignalled, late⟩
    | unanswered polls h =>
      exact ⟨_, t, bind_failed hp, .unanswered (.inr ⟨unmatched, _, polls⟩) h⟩
    | endless polls => exact ⟨_, t, bind_endless hp, .endless unmatched polls⟩
  · exact ⟨.failed f, s, bind_failed (examine_error failed), .unanswered (.inl rfl) asked⟩

/-- A search moves to an open page on a wanted domain at once; else to what the first poll
that sees a page sees; else, when the window has passed, it stays on the current page if that
is on a wanted domain; else it moves to any other open page. Without a signal it fails where a
popup is required, and otherwise stays on the current page, or fails if that is closed, and
then no page is open. Only an address that is no text can make it fail otherwise. -/
theorem switch_decided (plan : Plan τ) (w : Wanted) (s : Stage τ) :
    ∃ e t, switch plan w s = (e, t) ∧ Decided plan w s e t ∧
      ∀ f, e = .failed f → (f = notFound plan ∧ w.required = true) ∨
        (f = noPage ∧ t.isClosed w.current = true ∧ t.openPages = []) ∨
        ∃ url, Address.Unsearchable url f := by
  obtain ⟨e, t, ends, decided⟩ := switch_ends plan w s
  refine ⟨e, t, ends, decided, ?_⟩
  intro f failed
  cases decided with
  | missing alone required =>
    cases failed
    exact .inl ⟨rfl, required⟩
  | pageless alone optional closed none =>
    cases failed
    exact .inr (.inl ⟨rfl, closed, none⟩)
  | unanswered reached h =>
    cases failed
    obtain ⟨url, -, unsearchable⟩ := h
    exact .inr (.inr ⟨url, unsearchable⟩)
  | _ => cases failed

end Rehearsal.Popup
