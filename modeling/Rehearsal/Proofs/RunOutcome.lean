import Rehearsal.Proofs.RunLedger

/-!
# The outcome of a run

A run that ends has its result or one failure, and the code of the failure tells where it
comes from: the actions could not be read, the first navigation failed, an action failed,
or something else did. The closing of the session has no part in it. A run that does not
end is one that waits for an endpoint or for a popup.
-/

namespace Rehearsal.Run

open Play

/-- The code with which a run failed. -/
def failureCode : Except RunFailure RunResult → Option String
  | .ok _ => none
  | .error failure => some failure.cause.code

/-- The session has started and the first navigation failed. -/
inductive Unnavigated (settings : Settings) (url : Value) (s : Stage Float) : Prop
  | intro (session : Session) (t : Stage Float)
      (hl : Session.launch settings s = (.done session, t)) (f : Failure) (u : Stage Float)
      (hg : Browser.goto session.firstPage url t = (.failed f, u))

/-- The session has started and the stage is that on which the first action begins. -/
inductive Begun (settings : Settings) (url : Value) (s : Stage Float) (session : Session)
    (v : Stage Float) : Prop
  | intro (t : Stage Float) (hl : Session.launch settings s = (.done session, t))
      (u : Stage Float) (hg : Browser.goto session.firstPage url t = (.done (), u))
      (r : Option Record)
      (hi : (Point.ofStage .initial session.firstPage u).capture settings u = (.done r, v))

/-- An action of a run raises a failure, and those before it are completed. -/
def Breaks (settings : Settings) (url : Value) (s : Stage Float) (actions : List Action)
    (number : Nat) (a : Action) (f : Failure) : Prop :=
  ∃ session v, Begun settings url s session v ∧
    Halts settings 1 (State.start session v) v actions number a f

/-- What a run that has ended tells its caller. -/
structure Verdict (settings : Settings) (url : Value) (g : Given) (s : Stage Float)
    (r : Except RunFailure RunResult) (t : Stage Float) : Prop where
  invalid : failureCode r = some "INVALID_ACTIONS" ↔ ∃ cause, g.read = .error cause
  /-- Actions that cannot be read cause no call at all. -/
  untouched : ∀ cause, g.read = .error cause → t.journal = s.journal
  navigation : failureCode r = some "NAVIGATION_FAILED" ↔
    (∃ actions, g.read = .ok actions) ∧ Unnavigated settings url (opened s)
  action : ∀ index type error code,
    (∃ records, r = .error ⟨.actionFailed index type error code, records⟩) ↔
      ∃ actions, g.read = .ok actions ∧ ∃ (number : Nat) (a : Action) (f : Failure),
        Breaks settings url (opened s) actions number a f ∧
        index = number ∧ type = a.name ∧ error = f.message ∧ code = f.code?
  /-- Every other failure has the same code. -/
  remaining : failureCode r = some "RUN_FAILED" ↔ ∃ failure, r = .error failure ∧
    failureCode r ≠ some "INVALID_ACTIONS" ∧ failureCode r ≠ some "NAVIGATION_FAILED" ∧
    ∀ index type error code, failure.cause ≠ .actionFailed index type error code
  ledger : ∀ failure, r = .error failure → failure.records = t.records
  /-- The outcome is settled before the session is closed, and the session is closed. -/
  closing : ∀ actions session u result v, g.read = .ok actions →
    Session.launch settings (opened s) = (.done session, u) →
    settled (inSession settings session url actions) u = (.done result, v) →
    r = result.mapError (⟨·, v.records⟩) ∧
      Stage.Called [.service .closeContext, .service .closeBrowser, .service .stop] v t

variable {settings : Settings} {url : Value} {g : Given} {cause : RunCause}
  {actions : List Action} {s t u : Stage Float} {session : Session}

lemma read_code (hg : g.read = .error cause) : cause.code = "INVALID_ACTIONS" := by
  have unread {items : List Item} (h : readItems items = .error cause) :
      cause.code = "INVALID_ACTIONS" := by
    unfold readItems at h
    split at h
    · cases h
      rfl
    · cases h
  cases g with
  | items items => exact unread hg
  | data value =>
    rcases hi : itemsOf value with c | items <;> simp only [Given.read, hi] at hg
    · cases hg
      unfold itemsOf at hi
      split at hi <;> cases hi
      rfl
    · exact unread hg

/-- What a run may fail with once its actions have been read. -/
inductive Cause (url : Value) : RunCause → Prop
  | navigation (error : String) : Cause url (.navigationFailed url error)
  | action (index : Int) (type error : String) (code : Option String) :
      Cause url (.actionFailed index type error code)
  | other (f : Failure) : Cause url (.ofFailure f)

lemma Cause.code_ne_invalid (h : Cause url cause) : cause.code ≠ "INVALID_ACTIONS" := by
  cases h <;> (simp only [RunCause.ofFailure, RunCause.code]; decide)

lemma Cause.code_navigation (h : Cause url cause) :
    cause.code = "NAVIGATION_FAILED" ↔ ∃ error, cause = .navigationFailed url error := by
  cases h with
  | navigation error => exact ⟨fun _ => ⟨error, rfl⟩, fun _ => rfl⟩
  | action => exact ⟨fun h => absurd h (by simp only [RunCause.code]; decide), by simp⟩
  | other =>
    exact ⟨fun h => absurd h (by simp only [RunCause.ofFailure, RunCause.code]; decide),
      by simp [RunCause.ofFailure]⟩

lemma Cause.code_other (h : Cause url cause) : cause.code = "RUN_FAILED" ↔
    cause.code ≠ "NAVIGATION_FAILED" ∧
      ∀ index type error code, cause ≠ .actionFailed index type error code := by
  cases h with
  | navigation => simp [RunCause.code]
  | action => simp [RunCause.code]
  | other => simp [RunCause.ofFailure, RunCause.code]

/-- Of a run whose actions could be read it is left to say which of them breaks, and whether
it is the first navigation that failed. -/
lemma Verdict.of_read {r : Except RunFailure RunResult} (hg : g.read = .ok actions)
    (caused : ∀ failure, r = .error failure → Cause url failure.cause)
    (navigation : (∃ error records, r = .error ⟨.navigationFailed url error, records⟩) ↔
      Unnavigated settings url (opened s))
    (action : ∀ index type error code,
      (∃ records, r = .error ⟨.actionFailed index type error code, records⟩) ↔
        ∃ (number : Nat) (a : Action) (f : Failure),
          Breaks settings url (opened s) actions number a f ∧
          index = number ∧ type = a.name ∧ error = f.message ∧ code = f.code?)
    (ledger : ∀ failure, r = .error failure → failure.records = t.records)
    (closing : ∀ session u result v, Session.launch settings (opened s) = (.done session, u) →
      settled (inSession settings session url actions) u = (.done result, v) →
      r = result.mapError (⟨·, v.records⟩) ∧
        Stage.Called [.service .closeContext, .service .closeBrowser, .service .stop] v t) :
    Verdict settings url g s r t where
  invalid := by
    refine ⟨fun h => ?_, fun ⟨c, hc⟩ => by cases hg.symm.trans hc⟩
    cases r with
    | ok result => cases h
    | error failure => exact absurd (Option.some.inj h) (caused failure rfl).code_ne_invalid
  untouched c hc := by cases hg.symm.trans hc
  navigation := by
    rw [← navigation]
    constructor
    · intro h
      refine ⟨⟨actions, hg⟩, ?_⟩
      cases r with
      | ok result => cases h
      | error failure =>
        obtain ⟨error, he⟩ := (caused failure rfl).code_navigation.mp (Option.some.inj h)
        exact ⟨error, failure.records, by rw [← he]⟩
    · rintro ⟨-, error, records, rfl⟩
      rfl
  action index type error code := by
    rw [action]
    constructor
    · exact fun h => ⟨actions, hg, h⟩
    · rintro ⟨actions', hg', h⟩
      cases hg.symm.trans hg'
      exact h
  remaining := by
    cases r with
    | ok result => simp [failureCode]
    | error failure =>
      have cause := caused failure rfl
      simp only [failureCode, Option.some.injEq, ne_eq, Except.error.injEq, exists_eq_left',
        cause.code_other, cause.code_ne_invalid, not_false_eq_true, true_and]
  ledger := ledger
  closing actions' session u result v hg' hl hs := by
    cases hg.symm.trans hg'
    exact closing session u result v hl hs

/-- A session ends with an error of its own by its first navigation or by an action. -/
lemma inSession_error (hs : inSession settings session url actions t = (.done (.error cause), u)) :
    (∃ f v, Browser.goto session.firstPage url t = (.failed f, v) ∧
      cause = .navigationFailed url f.message) ∨
    ∃ v r w pts, Browser.goto session.firstPage url t = (.done (), v) ∧
      (Point.ofStage .initial session.firstPage v).capture settings v = (.done r, w) ∧
      Acts settings 1 (State.start session w) w actions pts (.done (.error cause)) u := by
  obtain ⟨pts, hv⟩ := visited hs nofun
  cases hv with
  | unnavigated h => exact .inl ⟨_, _, h, rfl⟩
  | stopped h hi ha => exact .inr ⟨_, _, _, _, h, hi, ha⟩

section Held

variable (hl : Session.launch settings s = (.done session, t)) {result : Except RunCause RunResult}
  (hs : settled (inSession settings session url actions) t = (.done result, u))

include hs

lemma held_caused (h : result = .error cause) : Cause url cause := by
  subst h
  rcases settled_cases hs with hx | ⟨f, -, he⟩
  · rcases inSession_error hx with ⟨f, v, -, rfl⟩ | ⟨v, r, w, pts, -, -, ha⟩
    · exact .navigation _
    · obtain ⟨number, a, f, -, rfl⟩ := ha.halts
      exact .action ..
  · cases he
    exact .other f

include hl

lemma held_navigation : (∃ error, result = .error (.navigationFailed url error)) ↔
    Unnavigated settings url s := by
  constructor
  · rintro ⟨error, rfl⟩
    rcases settled_cases hs with hx | ⟨f, -, he⟩
    · rcases inSession_error hx with ⟨f, v, hg, -⟩ | ⟨v, r, w, pts, -, -, ha⟩
      · exact ⟨session, t, hl, f, v, hg⟩
      · obtain ⟨number, a, f, -, he⟩ := ha.halts
        cases he
    · cases he
  · rintro ⟨session', t', hl', f, v, hg⟩
    cases hl.symm.trans hl'
    cases (settled_done (inSession_unnavigated hg)).symm.trans hs
    exact ⟨_, rfl⟩

lemma held_action (index : Int) (type error : String) (code : Option String) :
    result = .error (.actionFailed index type error code) ↔
      ∃ (number : Nat) (a : Action) (f : Failure),
        Breaks settings url s actions number a f ∧
        index = number ∧ type = a.name ∧ error = f.message ∧ code = f.code? := by
  constructor
  · rintro rfl
    rcases settled_cases hs with hx | ⟨f, -, he⟩
    · rcases inSession_error hx with ⟨f, v, -, he⟩ | ⟨v, r, w, pts, hg, hi, ha⟩
      · cases he
      · obtain ⟨number, a, f, halts, he⟩ := ha.halts
        cases he
        exact ⟨number, a, f, ⟨session, w, ⟨t, hl, v, hg, r, hi⟩, halts⟩, rfl, rfl, rfl, rfl⟩
    · cases he
  · rintro ⟨number, a, f, ⟨session', w, ⟨t', hl', v, hg, r, hi⟩, halts⟩, rfl, rfl, rfl, rfl⟩
    cases hl.symm.trans hl'
    obtain ⟨x, hx⟩ := halts.ends
    cases (settled_done (inSession_stopped hg hi hx)).symm.trans hs
    rfl

end Held

/-- A run that cannot read its actions has a verdict. -/
lemma verdict_unread (hg : g.read = .error cause) (s : Stage Float) :
    Verdict settings url g s (.error ⟨cause, []⟩) (opened s) := by
  have code := read_code hg
  refine ⟨⟨fun _ => ⟨cause, hg⟩, fun _ => congrArg some code⟩, fun _ _ => rfl, ?_, ?_, ?_, ?_, ?_⟩
  · refine ⟨fun h => ?_, fun ⟨⟨actions, hg'⟩, _⟩ => by cases hg.symm.trans hg'⟩
    exact absurd (code.symm.trans (Option.some.inj h)) (by decide)
  · intro index type error code'
    constructor
    · rintro ⟨records, h⟩
      cases h
      exact absurd code (by simp only [RunCause.code]; decide)
    · rintro ⟨actions, hg', -⟩
      cases hg.symm.trans hg'
  · constructor
    · intro h
      exact absurd (code.symm.trans (Option.some.inj h)) (by decide)
    · rintro ⟨failure, -, h, -⟩
      exact absurd (congrArg some code) h
  · rintro failure h
    cases h
    rfl
  · intro actions session u result v hg'
    cases hg.symm.trans hg'

lemma verdict_unlaunched (hg : g.read = .ok actions) {f : Failure}
    (hl : Session.launch settings (opened s) = (.failed f, t)) :
    Verdict settings url g s (.error ⟨.ofFailure f, t.records⟩) t := by
  refine .of_read hg ?_ ?_ ?_ ?_ ?_
  · rintro failure ⟨⟩
    exact .other f
  · constructor
    · rintro ⟨error, records, h⟩
      cases h
    · rintro ⟨session, u, hl', -⟩
      cases hl.symm.trans hl'
  · intro index type error code
    constructor
    · rintro ⟨records, h⟩
      cases h
    · rintro ⟨number, a, g, ⟨session, u, ⟨v, hl', -⟩, -⟩, -⟩
      cases hl.symm.trans hl'
  · rintro failure ⟨⟩
    rfl
  · intro session u result v hl'
    cases hl.symm.trans hl'

lemma verdict_held (hg : g.read = .ok actions)
    (hl : Session.launch settings (opened s) = (.done session, t))
    {result : Except RunCause RunResult}
    (hs : settled (inSession settings session url actions) t = (.done result, u)) {v : Stage Float}
    (closing : Stage.Called [.service .closeContext, .service .closeBrowser, .service .stop] u v) :
    Verdict settings url g s (result.mapError (⟨·, u.records⟩)) v := by
  have failed {cause : RunCause} {records : List Record} :
      result.mapError (⟨·, u.records⟩) = .error (⟨cause, records⟩ : RunFailure) ↔
        result = .error cause ∧ u.records = records := by
    cases result <;> simp [Except.mapError]
  refine .of_read hg ?_ ?_ ?_ ?_ ?_
  · rintro ⟨cause, records⟩ h
    exact held_caused hs (failed.mp h).1
  · rw [← held_navigation hl hs]
    simp only [failed, exists_and_left, exists_eq', and_true]
  · intro index type error code
    rw [← held_action hl hs]
    simp only [failed, exists_and_left, exists_eq', and_true]
  · rintro ⟨cause, records⟩ h
    rw [← (failed.mp h).2]
    exact congrArg List.reverse closing.ledger.symm
  · intro session' u' result' v' hl' hs'
    cases hl.symm.trans hl'
    cases hs.symm.trans hs'
    exact ⟨rfl, closing⟩

/-- A run that ends has its result or one failure, with the code that says where it comes
from and with the ledger up to it; nothing is raised besides. Only a wait for an endpoint or
for a popup may have no end, and it pauses as often as there is patience for. -/
theorem run_verdict (settings : Settings) (url : Value) (g : Given) (s : Stage Float) :
    (∃ r t, ofGiven settings url g s = (.done r, t) ∧ Verdict settings url g s r t) ∨
    ∃ t actions, ofGiven settings url g s = (.endless, t) ∧ g.read = .ok actions ∧
      ((settings .cdpUrl : String) ≠ "" ∨ ∃ p, .switchToPopup p ∈ actions) ∧ s.Exhausted t := by
  rcases hg : g.read with cause | actions
  · exact .inl ⟨_, _, ofGiven_unread settings url hg s, verdict_unread hg s⟩
  rcases ran settings url s hg with
    ⟨f, u, hl, calls, called, -, hr⟩ |
    ⟨session, u, hl, calls, called, -, result, v, hs, w, -, closing, hr⟩ | ⟨u, hr, he, waited⟩
  · exact .inl ⟨_, u, hr, verdict_unlaunched hg hl⟩
  · exact .inl ⟨_, w, hr, verdict_held hg hl hs closing⟩
  · exact .inr ⟨u, actions, hr, rfl, he, waited⟩

end Rehearsal.Run
