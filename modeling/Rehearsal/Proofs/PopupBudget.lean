import Mathlib.Tactic.IntervalCases
import Mathlib.Tactic.NormNum
import Rehearsal.Proofs.ExactClock
import Rehearsal.Proofs.PopupPriority

/-!
# How often a search for popups looks

A look comes before the check of the deadline, and the check before the pause. So on an exact
clock that only pauses advance, a search that never sees anything looks once more than the
poll interval fits into its window, rounded up, and its last look is the only one at or after
the deadline. A search that sees something stops there.
-/

namespace Rehearsal.Popup

open Play

section Counting

variable {τ : Type} [Clock τ] (plan : Plan τ) (w : Wanted)

/-- Polls for a signal and counts the looks, those made before included. -/
def countedPoll (due : τ) : Nat → Nat → Play τ (Option Nat × Nat)
  | _, 0 => Play.endless
  | looks, turns + 1 => do
    match ← Play.examine (signal · w) with
    | some page => return (some page, looks + 1)
    | none =>
      if Clock.le due (← Play.look (·.now)) then return (none, looks + 1)
      Play.sleep plan.pollInterval
      countedPoll due (looks + 1) turns

variable {plan w} {due : τ} {s : Stage τ} {looks turns : Nat}

lemma countedPoll_seen {page : Nat} (h : signal s w = .ok (some page)) :
    countedPoll plan w due looks (turns + 1) s = (.done (some page, looks + 1), s) := by
  unfold countedPoll
  rw [bind_done (examine_ok h)]
  rfl

lemma countedPoll_over (h : signal s w = .ok none) (late : Clock.le due s.now = true) :
    countedPoll plan w due looks (turns + 1) s = (.done (none, looks + 1), s) := by
  unfold countedPoll
  rw [bind_done (examine_ok h)]
  dsimp only
  rw [bind_done (look_run _ s), late]
  rfl

lemma countedPoll_again (h : signal s w = .ok none) (early : Clock.le due s.now = false) :
    countedPoll plan w due looks (turns + 1) s =
      countedPoll plan w due (looks + 1) turns (s.sleep plan.pollInterval) := by
  conv_lhs => unfold countedPoll
  rw [bind_done (examine_ok h)]
  dsimp only
  rw [bind_done (look_run _ s), early]
  rfl

lemma countedPoll_unanswered {f : Failure} (h : signal s w = .error f) :
    countedPoll plan w due looks (turns + 1) s = (.failed f, s) := by
  unfold countedPoll
  rw [bind_failed (examine_error h)]

/-- Counting changes nothing. -/
lemma countedPoll_uncounted (plan : Plan τ) (w : Wanted) (due : τ) (looks turns : Nat) :
    (countedPoll plan w due looks turns >>= fun r => pure r.1) =
      poll plan w due turns := by
  funext s
  induction turns generalizing looks s with
  | zero => rfl
  | succ turns ih =>
    unfold poll
    rcases seen : signal s w with f | _ | page
    · rw [bind_failed (countedPoll_unanswered seen), bind_failed (examine_error seen)]
    · rw [bind_done (examine_ok seen)]
      dsimp only
      rw [bind_done (look_run _ s)]
      cases late : Clock.le due s.now with
      | true => exact bind_done (countedPoll_over seen late)
      | false =>
        rw [bind_run, countedPoll_again seen late, ← bind_run]
        exact ih (looks + 1) (s.sleep plan.pollInterval)
    · rw [bind_done (countedPoll_seen seen), bind_done (examine_ok seen)]

/-- Looks that see nothing before the deadline lead to the pause after them. -/
lemma countedPoll_slept (n : Nat)
    (silent : ∀ k < n, signal (s.slept plan.pollInterval k) w = .ok none)
    (early : ∀ k < n, Clock.le due (s.slept plan.pollInterval k).now = false) :
    countedPoll plan w due looks (n + turns) s =
      countedPoll plan w due (looks + n) turns (s.slept plan.pollInterval n) := by
  induction n generalizing s looks with
  | zero => rw [Nat.zero_add]; rfl
  | succ n ih =>
    have first : signal s w = .ok none := silent 0 (Nat.succ_pos n)
    have before : Clock.le due s.now = false := early 0 (Nat.succ_pos n)
    rw [Nat.add_right_comm, countedPoll_again first before,
      ih (fun k hk => silent (k + 1) (Nat.succ_lt_succ hk))
        (fun k hk => early (k + 1) (Nat.succ_lt_succ hk)),
      Stage.slept_succ, Nat.add_assoc, Nat.add_comm 1 n]

variable (plan w s)

/-- The stage of a look, the first being number zero, if none before has ended the search. -/
def looked (k : Nat) : Stage τ := (begun plan s).slept plan.pollInterval k

/-- The polls of a search, with the count of its looks. -/
def counted : Ending (Option Nat × Nat) × Stage τ :=
  countedPoll plan w (deadline plan s) 0 s.patience (begun plan s)

/-- The pauses of a search before its look of that number. -/
def pausesBefore (k : Nat) : List (Call τ) :=
  (if Clock.positive plan.initialDelay then [.sleep plan.initialDelay] else []) ++
    List.replicate k (.sleep plan.pollInterval)

lemma begun_eq : begun plan s =
    if Clock.positive plan.initialDelay then s.sleep plan.initialDelay else s := by
  unfold begun Play.pause
  split <;> rfl

lemma begun_patience : (begun plan s).patience = s.patience := by
  rw [begun_eq]
  split
  · exact s.sleep_patience _
  · rfl

/-- A look comes after nothing but pauses. -/
lemma looked_calls (k : Nat) : (looked plan s k).calls = s.calls ++ pausesBefore plan k := by
  rw [looked, Stage.slept_calls, begun_eq, pausesBefore, ← List.append_assoc]
  split
  · rw [Stage.sleep_calls]
  · rw [List.append_nil]

variable {plan w s}

/-- What the polls of a search end with is what it goes on with. -/
lemma switch_counted (unmatched : existing s w = .ok none) {found : Option Nat} {n : Nat}
    {t : Stage τ} :
    counted plan w s = (.done (found, n), t) → switch plan w s = (match found with
      | some page => accept plan page
      | none => fallBack plan w : Play τ Nat) t := by
  intro h
  have polled : poll plan w (deadline plan s) (begun plan s).patience (begun plan s) =
      (.done found, t) := by
    rw [begun_patience, ← countedPoll_uncounted plan w _ 0]
    unfold counted at h
    rw [bind_done h]
    rfl
  rw [switch_polling unmatched]
  exact bind_done polled

lemma steady_begun (h : s.Steady) : (begun plan s).Steady := by
  rw [begun_eq]
  split
  · exact h.sleep _
  · exact h

end Counting

variable {plan : Plan ℚ} {w : Wanted} {s : Stage ℚ}

/-- How many pauses the window has room for: the window over the interval, rounded up, and none
where there is no window. -/
def budget (plan : Plan ℚ) : Nat := ⌈plan.window / plan.pollInterval⌉₊

/-- The deadline has come at the look whose number is the budget, and at none before. -/
lemma late_iff (interval : 0 < plan.pollInterval) (steady : s.Steady) (k : Nat) :
    deadline plan s ≤ (looked plan s k).now ↔ budget plan ≤ k := by
  rw [looked, (steady_begun steady).slept_now, deadline, Clock.add_exact, budget, Nat.ceil_le,
    div_le_iff₀ interval]
  exact add_le_add_iff_left _

lemma early_below (interval : 0 < plan.pollInterval) (steady : s.Steady) {k : Nat}
    (h : k < budget plan) : Clock.le (deadline plan s) (looked plan s k).now = false :=
  Bool.eq_false_iff.mpr fun late =>
    Nat.not_le_of_lt h ((late_iff interval steady k).mp (Clock.le_exact.mp late))

/-- On an exact clock that only pauses advance, the polls of a search see what its looks see:
without any signal it looks once more than its budget says and pauses so often, after the
initial delay if there is any, and only its last look is at or after the deadline; where a look
within the budget is the first to see a page, it is the last one and the search moves there. -/
theorem polls_within_budget (interval : 0 < plan.pollInterval) (steady : s.Steady)
    (unmatched : existing s w = .ok none) (patient : budget plan < s.patience) :
    ((∀ k ≤ budget plan, signal (looked plan s k) w = .ok none) →
      counted plan w s = (.done (none, budget plan + 1), looked plan s (budget plan)) ∧
      switch plan w s = fallBack plan w (looked plan s (budget plan)) ∧
      (looked plan s (budget plan)).calls = s.calls ++ pausesBefore plan (budget plan) ∧
      ∀ k, deadline plan s ≤ (looked plan s k).now ↔ budget plan ≤ k) ∧
    ∀ j ≤ budget plan, ∀ page, (∀ k < j, signal (looked plan s k) w = .ok none) →
      signal (looked plan s j) w = .ok (some page) →
        counted plan w s = (.done (some page, j + 1), looked plan s j) ∧
        switch plan w s = accept plan page (looked plan s j) ∧
        (looked plan s j).calls = s.calls ++ pausesBefore plan j := by
  -- Up to the budget every silent look is before the deadline, so one turn of the loop is left.
  have reach (j : Nat) (within : j ≤ budget plan)
      (silent : ∀ k < j, signal (looked plan s k) w = .ok none) :
      ∃ turns, counted plan w s =
        countedPoll plan w (deadline plan s) j (turns + 1) (looked plan s j) := by
    obtain ⟨turns, enough⟩ := Nat.exists_eq_add_of_lt (Nat.lt_of_le_of_lt within patient)
    have early : ∀ k < j, Clock.le (deadline plan s) (looked plan s k).now = false :=
      fun k hk => early_below interval steady (Nat.lt_of_lt_of_le hk within)
    refine ⟨turns, ?_⟩
    rw [counted, enough, Nat.add_assoc, countedPoll_slept j silent early, Nat.zero_add]
    rfl
  constructor
  · intro silent
    obtain ⟨turns, reached⟩ := reach _ (le_refl _) fun k hk => silent k (le_of_lt hk)
    have late : Clock.le (deadline plan s) (looked plan s (budget plan)).now = true :=
      Clock.le_exact.mpr ((late_iff interval steady _).mpr (le_refl _))
    have ended : counted plan w s =
        (.done (none, budget plan + 1), looked plan s (budget plan)) :=
      reached.trans (countedPoll_over (silent _ (le_refl _)) late)
    exact ⟨ended, switch_counted unmatched ended, looked_calls plan s _, late_iff interval steady⟩
  · intro j within page silent seen
    obtain ⟨turns, reached⟩ := reach j within silent
    have found : counted plan w s = (.done (some page, j + 1), looked plan s j) :=
      reached.trans (countedPoll_seen seen)
    exact ⟨found, switch_counted unmatched found, looked_calls plan s j⟩

/-- A window into which the interval does not fit evenly. -/
def unevenPlan : Plan ℚ where
  window := 1
  pollInterval := 2 / 5
  initialDelay := 1 / 2
  settleDelay := 0
  loadTimeout := 0
  pageTimeout := 0

lemma unevenPlan_budget : budget unevenPlan = 3 := by
  norm_num [budget, unevenPlan, Nat.ceil_eq_iff]

lemma unevenPlan_looked (s : Stage ℚ) (k : Nat) :
    looked unevenPlan s k = (s.sleep (1 / 2)).slept (2 / 5) k := by
  have delay : Clock.positive unevenPlan.initialDelay = true :=
    Clock.positive_exact.mpr (by norm_num [unevenPlan])
  rw [looked, begun_eq, if_pos delay]
  rfl

/-- Four looks at a page that stays alone; three where a popup opens in the third pause, the
first one being the initial delay. -/
theorem polls_within_budget_uneven :
    (counted unevenPlan ⟨0, ⟨0, 1⟩, [], false⟩ { now := 0, pages := [{}] } =
      (.done (none, 4), looked unevenPlan { now := 0, pages := [{}] } 3)) ∧
    counted unevenPlan ⟨0, ⟨0, 1⟩, [], false⟩
        { now := 0, pages := [{}]
          meanwhile := [(0, []), (0, []), (0, [.openPage (.text "https://pay") {}])] } =
      (.done (some 1, 3), looked unevenPlan
        { now := 0, pages := [{}]
          meanwhile := [(0, []), (0, []), (0, [.openPage (.text "https://pay") {}])] } 2) := by
  have interval : 0 < unevenPlan.pollInterval := by norm_num [unevenPlan]
  have patient : budget unevenPlan < 1000000 := by rw [unevenPlan_budget]; norm_num
  constructor
  · have silent := (polls_within_budget (w := ⟨0, ⟨0, 1⟩, [], false⟩)
      (s := { now := 0, pages := [{}] }) interval nofun rfl patient).1
    rw [unevenPlan_budget] at silent
    exact (silent fun k hk => by rw [unevenPlan_looked]; interval_cases k <;> rfl).1
  · have signalled := (polls_within_budget (w := ⟨0, ⟨0, 1⟩, [], false⟩)
      (s := { now := 0, pages := [{}]
              meanwhile := [(0, []), (0, []), (0, [.openPage (.text "https://pay") {}])] })
      interval (by simp [Stage.Steady, Effect.elapses]) rfl patient).2 2
    rw [unevenPlan_budget] at signalled
    exact (signalled (by decide) 1 (fun k hk => by rw [unevenPlan_looked]; interval_cases k <;> rfl)
      (by rw [unevenPlan_looked]; rfl)).1

end Rehearsal.Popup
