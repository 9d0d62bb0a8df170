import Mathlib.Tactic.Lemma
import Rehearsal.Browser.Locating

/-!
# What a play may raise

A judgement about the failures with which a play can end. Calls on pages raise failures of the
driver and no others.
-/

namespace Rehearsal

/-- Every failure that the play ends with is one of these. -/
def Play.Raises {τ α : Type} (P : Failure → Prop) (p : Play τ α) : Prop :=
  ∀ s f t, p s = (.failed f, t) → P f

namespace Play.Raises

variable {τ α β : Type} {P : Failure → Prop} {p : Play τ α}

lemma pure (a : α) : Raises P (Pure.pure a : Play τ α) := by
  intro s f t failed
  cases failed

lemma look (g : Stage τ → α) : Raises P (Play.look g) := by
  intro s f t failed
  cases failed

lemma change (g : Stage τ → Stage τ) : Raises P (Play.change g) := by
  intro s f t failed
  cases failed

lemma fail {f : Failure} (h : P f) : Raises P (Play.fail f : Play τ α) := by
  intro s g t failed
  cases failed
  exact h

lemma bind {next : α → Play τ β} (hp : Raises P p) (hn : ∀ a, Raises P (next a)) :
    Raises P (p >>= next) := by
  intro s f t failed
  rcases failed_of_bind failed with first | ⟨a, u, -, after⟩
  · exact hp s f t first
  · exact hn a u f t after

/-- Only what was raised comes to the handler. -/
lemma orElse {handler : Failure → Play τ α} (hp : Raises P p)
    (hh : ∀ f, P f → Raises P (handler f)) : Raises P (Play.orElse p handler) := by
  intro s f t failed
  unfold Play.orElse at failed
  rcases h : p s with ⟨a | g | _, u⟩
  · rw [bind_done (attempt_done h)] at failed
    cases failed
  · rw [bind_done (attempt_failed h)] at failed
    exact hh g (hp s g u h) u f t failed
  · rw [bind_endless (attempt_endless h)] at failed
    cases failed

end Play.Raises

namespace Browser

open Play

variable {τ : Type} [Clock τ] {P : Failure → Prop} (driven : ∀ d, P (.driver d)) (id : Nat)

include driven

lemma runStep_raises (step : Step τ) : Raises P (runStep id step) := by
  intro s f t failed
  unfold runStep at failed
  rcases h : s.performAll id step with ⟨_ | d, u⟩ <;> rw [h] at failed <;> cases failed
  exact driven d

lemma enter_raises (entry : Call τ) (name : String) : Raises P (enter id entry name) := by
  have followed : Raises P (followScript id name : Play τ Unit) := by
    intro s f t failed
    unfold followScript at failed
    split at failed
    · cases failed
    · exact runStep_raises driven id _ _ f t failed
  refine .bind (.change _) fun _ => .bind (.look _) fun closed => ?_
  dsimp only
  split
  · exact .bind (.fail (driven _)) fun _ => followed
  · exact followed

omit [Clock τ] in
lemma visibleElement_raises (selector : String) (timeout : Int) :
    Raises P (visibleElement id selector timeout : Play τ _) := by
  refine .bind (.look _) fun found => ?_
  split
  · exact .pure _
  · exact .fail (driven _)

lemma click_raises (selector : String) (timeout : Int) :
    Raises P (click id selector timeout : Play τ Unit) :=
  .bind (enter_raises driven id _ _) fun _ =>
    .bind (visibleElement_raises driven id selector timeout) fun _ =>
      .bind (.change _) fun _ => runStep_raises driven id _

lemma fill_raises (selector value : String) (timeout : Int) :
    Raises P (fill id selector value timeout : Play τ Unit) :=
  .bind (enter_raises driven id _ _) fun _ =>
    .bind (visibleElement_raises driven id selector timeout) fun _ => .change _

omit driven [Clock τ] in
lemma located_raises (l : Locator) : Raises P (located id l : Play τ _) := by
  refine .bind (.look _) fun all => ?_
  dsimp only
  split <;> exact .pure _

lemma count_raises (l : Locator) : Raises P (count id l : Play τ Nat) :=
  .bind (enter_raises driven id _ _) fun _ => .bind (located_raises id l) fun _ => .pure _

lemma valueOf_raises (l : Locator) : Raises P (valueOf id l : Play τ _) := by
  refine .bind (enter_raises driven id _ _) fun _ => .bind (.bind (located_raises id l) ?_)
    fun _ => .pure _
  intro found
  split
  · exact .pure _
  · exact .fail (driven _)

end Browser
end Rehearsal
