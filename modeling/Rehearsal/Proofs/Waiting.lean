import Rehearsal.Proofs.PopupPriority
import Rehearsal.Proofs.RunDeeds

/-!
# Plays without an end

Only a wait that looks for something again and again can have no end. When it is given up
it has paused as often as the stage has patience for, and so has the run around it.
-/

namespace Rehearsal

open Play

/-- How many pauses there have been. -/
def Stage.pauses {τ : Type} (s : Stage τ) : Nat := s.journal.countP Call.isPause

/-- A later stage. -/
structure Stage.Onward {τ : Type} (s t : Stage τ) : Prop where
  patience : t.patience = s.patience
  pauses : s.pauses ≤ t.pauses

lemma Stage.Onward.trans {τ : Type} {s t u : Stage τ} (h : s.Onward t) (k : t.Onward u) :
    s.Onward u :=
  ⟨k.patience.trans h.patience, Nat.le_trans h.pauses k.pauses⟩

/-- A stage after as many pauses as there was patience for. -/
def Stage.Exhausted {τ : Type} (s t : Stage τ) : Prop := s.pauses + s.patience ≤ t.pauses

lemma Stage.Exhausted.of_onward {τ : Type} {s t u : Stage τ} (h : s.Onward t)
    (k : t.Exhausted u) : s.Exhausted u := by
  unfold Exhausted at *
  rw [h.patience] at k
  exact Nat.le_trans (Nat.add_le_add_right h.pauses _) k

/-- Where the play has no end, the patience of the stage is exhausted. -/
def Waits {τ α : Type} (p : Play τ α) : Prop :=
  ∀ s, s.Onward (p s).2 ∧ ((p s).1 = .endless → s.Exhausted (p s).2)

section Composing

variable {τ α β : Type}

lemma Waits.still {p : Play τ α} (hp : Within Eq False p) : Waits p := by
  intro s
  have same : s = (p s).2 := (hp s).1
  refine ⟨?_, fun h => absurd h (hp.ends s)⟩
  rw [← same]
  exact ⟨rfl, Nat.le_refl _⟩

lemma Waits.bind {p : Play τ α} {f : α → Play τ β} (hp : Waits p) (hf : ∀ a, Waits (f a)) :
    Waits (p >>= f) := by
  intro s
  obtain ⟨hs, he⟩ := hp s
  rcases hps : p s with ⟨a | e | _, t⟩ <;> rw [hps] at hs he
  · rw [bind_done hps]
    obtain ⟨ht, hw⟩ := hf a t
    exact ⟨hs.trans ht, fun h => .of_onward hs (hw h)⟩
  · rw [bind_failed hps]
    exact ⟨hs, nofun⟩
  · rw [bind_endless hps]
    exact ⟨hs, fun _ => he rfl⟩

lemma Waits.attempt {p : Play τ α} (hp : Waits p) : Waits (Play.attempt p) := by
  intro s
  rw [attempt_stage]
  refine ⟨(hp s).1, fun h => (hp s).2 ?_⟩
  rcases hps : p s with ⟨a | e | _, t⟩
  · rw [attempt_done hps] at h
    cases h
  · rw [attempt_failed hps] at h
    cases h
  · rfl

variable [Clock τ]

lemma Deeds.onward {limit : Int} {kept : Record → Prop} {s t : Stage τ}
    (h : Deeds limit kept s t) : s.Onward t := by
  obtain ⟨calls, hj, -⟩ := h.journal
  refine ⟨h.patience, ?_⟩
  rw [Stage.pauses, Stage.pauses, hj, List.countP_append]
  exact Nat.le_add_left _ _

lemma Waits.of_deeds (limit : Int) (kept : Record → Prop) {p : Play τ α}
    (hp : Within (Deeds limit kept) False p) : Waits p :=
  fun s => ⟨(hp s).1.onward, fun h => absurd h (hp.ends s)⟩

/-- A loop that pauses in each of its turns, and has as many as there is patience for. -/
lemma Waits.turns (limit : Int) (kept : Record → Prop) {p : Nat → Play τ α}
    (hd : ∀ n, Within (Deeds limit kept) True (p n))
    (hp : ∀ n s, (p n s).1 = .endless → s.pauses + n ≤ (p n s).2.pauses) :
    Waits (Play.look (·.patience) >>= p) := by
  intro s
  rw [bind_done (look_run _ s)]
  exact ⟨(hd _ s).1.onward, hp _ s⟩

/-- A pause counts, whatever happens to the browser meanwhile. -/
lemma sleep_pauses (s : Stage τ) (span : τ) : s.pauses + 1 ≤ (s.sleep span).pauses := by
  let t := { s.note (.sleep span) with now := Clock.add s.now span }
  have counted : t.pauses = s.pauses + 1 := List.countP_cons_of_pos rfl
  unfold Stage.sleep
  dsimp only
  split
  · exact Nat.le_of_eq counted.symm
  · next id step rest _ =>
    have later : Deeds 0 noRecord t (Stage.happen { t with meanwhile := rest } id step) :=
      (Deeds.one (.meanwhile t rest)).trans (Stage.Admits.happen _ id step)
    rw [← counted]
    exact later.onward.pauses

/-- With one turn less and a pause more, a loop has paused as often as it has turns. -/
lemma sleep_then {p : Play τ α} {turns : Nat} (span : τ) (s : Stage τ)
    (hp : ∀ t, (p t).1 = .endless → t.pauses + turns ≤ (p t).2.pauses)
    (h : ((Play.sleep span >>= fun _ => p) s).1 = .endless) :
    s.pauses + (turns + 1) ≤ ((Play.sleep span >>= fun _ => p) s).2.pauses := by
  have slept : Play.sleep span s = (.done (), s.sleep span) := rfl
  rw [bind_done slept] at h ⊢
  have later := hp (s.sleep span) h
  have paused := sleep_pauses s span
  omega

end Composing

section Polling

variable {τ : Type} [Clock τ]

lemma Endpoint.ask_onward (url : String) (s : Stage τ) :
    ∃ answer t, Endpoint.ask url s = (.done answer, t) ∧ s.Onward t := by
  have quiet : Within (Deeds 0 noRecord) False (Endpoint.ask url : Play τ Answer) :=
    Endpoint.ask_deeds url
  have asked := quiet s
  rcases ha : Endpoint.ask url s with ⟨answer | f | _, t⟩ <;> rw [ha] at asked
  · exact ⟨answer, t, rfl, asked.1.onward⟩
  · unfold Endpoint.ask at ha
    dsimp only at ha
    split at ha <;> cases ha
  · exact (asked.2 rfl).elim

lemma Endpoint.poll_pauses (url : String) (deadline interval : τ) (turns : Nat) (s : Stage τ)
    (h : (Endpoint.poll url deadline interval turns s).1 = .endless) :
    s.pauses + turns ≤ (Endpoint.poll url deadline interval turns s).2.pauses := by
  induction turns generalizing s with
  | zero => exact Nat.le_refl _
  | succ turns ih =>
    obtain ⟨answer, t, asked, onward⟩ := Endpoint.ask_onward url s
    unfold Endpoint.poll at h ⊢
    rw [bind_done (look_run _ s)] at h ⊢
    by_cases late : (!Clock.lt s.wall deadline) = true
    · rw [if_pos late] at h
      cases h
    · rw [if_neg late, bind_done asked] at h ⊢
      refine Nat.le_trans (Nat.add_le_add_right onward.pauses _) ?_
      split at h
      · cases h
      · cases h
      · exact sleep_then interval t ih h

/-- Each poll that is not the last is followed by a pause. -/
lemma Popup.Polls.pauses {plan : Popup.Plan τ} {w : Popup.Wanted} {deadline : τ} {n : Nat}
    {s t : Stage τ} (h : Popup.Polls plan w deadline s n t) : s.pauses + n ≤ t.pauses := by
  induction h with
  | none => exact Nat.le_refl _
  | @again s t n _ _ _ ih =>
    have paused := sleep_pauses s plan.pollInterval
    omega

lemma Popup.poll_pauses (plan : Popup.Plan τ) (w : Popup.Wanted) (deadline : τ) (turns : Nat)
    (s : Stage τ) (h : (Popup.poll plan w deadline turns s).1 = .endless) :
    s.pauses + turns ≤ (Popup.poll plan w deadline turns s).2.pauses := by
  obtain ⟨e, t, hp, course⟩ := Popup.polled plan w deadline turns s
  rw [hp] at h ⊢
  cases course with
  | endless polls => exact polls.pauses
  | _ => cases h

lemma Endpoint.wait_waits (endpoint : String) (timeout interval : τ) :
    Waits (Endpoint.wait endpoint timeout interval) := by
  have noted : Within (Deeds 0 noRecord) False (Play.change (·.note .httpClient) : Play τ Unit) :=
    Within.change fun s => Stage.Admits.note s _ rfl rfl
  unfold Endpoint.wait
  split
  · exact .still (.fail _)
  · split
    · exact .still (.pure false)
    · exact .bind (.still (.look _)) fun wall => .bind (.of_deeds _ _ noted) fun _ =>
        .turns 0 noRecord (Endpoint.poll_deeds _ _ _)
          (Endpoint.poll_pauses _ _ _)

lemma Popup.switch_waits (plan : Popup.Plan τ) (w : Popup.Wanted) :
    Waits (Popup.switch plan w) := by
  have accepted (page : Nat) : Waits (Popup.accept plan page) :=
    .of_deeds plan.pageTimeout noRecord (Popup.accept_deeds plan page)
  refine .bind (.still (.examine _)) fun found => ?_
  split
  · exact accepted _
  · refine .bind (.of_deeds 0 noRecord (pause_deeds _)) fun _ =>
      .bind (.still (.look _)) fun now => ?_
    let deadline := Clock.add now plan.window
    have polled : Waits (Play.look (·.patience) >>= Popup.poll plan w deadline) :=
      .turns 0 noRecord (Popup.poll_deeds plan w deadline)
        (Popup.poll_pauses plan w deadline)
    refine polled.bind fun page => ?_
    split
    · exact accepted _
    · exact .of_deeds plan.pageTimeout noRecord (Popup.fallBack_deeds plan w)

end Polling

namespace Run

variable (settings : Settings)

lemma carryOut_waits (index : Nat) (state : State) (a : Action) :
    Waits (carryOut settings index state a) := by
  by_cases popup : ∃ p, a = .switchToPopup p
  · obtain ⟨p, rfl⟩ := popup
    rw [carryOut_eq]
    exact (Popup.switch_waits (.ofSettings settings p.timeout) _).bind fun _ => .still (.pure _)
  · exact .of_deeds _ anyRecord (carryOut_deeds settings index state a
      (fun p hp => popup ⟨p, hp⟩) fun _ _ _ _ _ => trivial)

lemma perform_waits (index : Nat) (a : Action) (state : State) :
    Waits (perform settings index a state) := by
  refine .bind (.still (checkPreconditions_within state)) fun _ => ?_
  dsimp only
  split
  · exact .bind (.of_deeds 0 noRecord (pause_deeds _)) fun _ =>
      carryOut_waits settings index state a
  · exact carryOut_waits settings index state a

lemma execute_waits (index : Nat) (a : Action) (state : State) :
    Waits (execute settings index a state) := by
  have diagnosed (page : Nat) (f : Failure) : Waits (diagnose settings index a page f) :=
    .of_deeds _ _ (diagnose_deeds settings index a page f)
  refine .bind (.still (.look _)) fun baseline =>
    .bind (perform_waits settings index a state).attempt fun performed => ?_
  split
  · exact .bind (diagnosed _ _) fun _ => .still (.pure _)
  · next next =>
    have recorded : Waits (recordAction settings (some next.current)
        ("action " ++ toString index) a none) :=
      .of_deeds 0 anyRecord (recordAction_deeds settings _ _ a none fun _ _ => trivial)
    refine .bind recorded.attempt fun r => ?_
    split
    · exact .bind (diagnosed _ _) fun _ => .still (.pure _)
    · exact .still (.pure _)

lemma executeAll_waits (index : Nat) (state : State) (actions : List Action) :
    Waits (executeAll settings index state actions) := by
  induction actions generalizing index state with
  | nil => exact .still (.pure _)
  | cons a rest ih =>
    refine .bind (execute_waits settings index a state) fun r => ?_
    split
    · exact .still (.pure _)
    · exact ih _ _

/-- A run in a session that does not end has exhausted the patience of the stage. -/
lemma inSession_waits (session : Session) (url : Value) (actions : List Action) :
    Waits (inSession settings session url actions) := by
  have arrived : Waits (Browser.goto session.firstPage url : Play Float Unit) :=
    .of_deeds 0 noRecord (Browser.goto_deeds _ url)
  refine .bind arrived.attempt fun r => ?_
  split
  · exact .still (.pure _)
  · have recorded : Waits (recordStage settings session.firstPage "initial") :=
      .of_deeds 0 anyRecord (recordStage_deeds settings _ "initial" fun _ _ => trivial)
    refine .bind recorded fun _ => .bind (.still (.look _)) fun baseline =>
      .bind (executeAll_waits settings 1 _ actions) fun r => ?_
    split
    · exact .still (.pure _)
    · exact .bind (.of_deeds _ _ (finish_deeds settings _)) fun _ => .still (.pure _)

end Run

end Rehearsal
