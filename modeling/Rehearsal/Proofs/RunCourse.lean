import Rehearsal.Proofs.ActionsCourse
import Rehearsal.Proofs.SessionEnds

/-!
# The course of a run

A run reads what it is given, launches a session, goes to the start address, carries out
the actions and looks at the page once more; then it closes the session. Each lemma says
what the whole run comes to when one of these steps ends in one way.
-/

namespace Rehearsal

namespace Run

open Play

/-- What a run may be given to do: untyped data, or a list of items. -/
inductive Given where
  | data (actions : Value)
  | items (actions : List Item)

/-- The actions that are read from items. -/
def readItems (items : List Item) : Except RunCause (List Action) :=
  match (Registry.standard.parseItems items).1 with
  | .error f => .error (.invalidActions f)
  | .ok actions => .ok actions

lemma readItems_ready (actions : List Action) :
    readItems (actions.map .ready) = .ok actions := by
  rw [readItems, Registry.parseItems_ready]

def Given.read : Given → Except RunCause (List Action)
  | items actions => readItems actions
  | data actions => match itemsOf actions with
    | .error cause => .error cause
    | .ok list => readItems list

variable (settings : Settings) (url : Value)

/-- The run of what is given. -/
def ofGiven : Given → Play Float (Except RunFailure RunResult)
  | .data actions => ofValue settings url actions
  | .items actions => ofItems settings url actions

/-- The stage with a ledger of its own for the run. -/
abbrev opened (s : Stage Float) : Stage Float := { s with ledger := [] }

variable {g : Given} {cause : RunCause} {actions : List Action} {s t u v : Stage Float}
  {session : Session} {f : Failure}

lemma ofItems_unread {items : List Item} (h : readItems items = .error cause)
    (s : Stage Float) : ofItems settings url items s = (.done (.error ⟨cause, []⟩), opened s) := by
  unfold readItems at h
  refine (bind_done (change_run _ s)).trans ?_
  split at h
  · next f hf =>
    cases h
    rw [hf]
    rfl
  · cases h

lemma ofItems_read {items : List Item} (h : readItems items = .ok actions)
    (s : Stage Float) : ofItems settings url items s =
      (withSession settings url actions >>= withLedger) (opened s) := by
  unfold readItems at h
  refine (bind_done (change_run _ s)).trans ?_
  split at h
  · cases h
  · next as ha =>
    cases h
    rw [ha]

/-- What cannot be read never gets to a browser. -/
lemma ofGiven_unread (h : g.read = .error cause) (s : Stage Float) :
    ofGiven settings url g s = (.done (.error ⟨cause, []⟩), opened s) := by
  cases g with
  | items items => exact ofItems_unread settings url h s
  | data value =>
    unfold ofGiven ofValue
    dsimp only
    rcases hi : itemsOf value with c | items <;> simp only [Given.read, hi] at h
    · cases h
      rfl
    · exact ofItems_unread settings url h s

lemma ofGiven_read (h : g.read = .ok actions) (s : Stage Float) :
    ofGiven settings url g s = (withSession settings url actions >>= withLedger) (opened s) := by
  cases g with
  | items items => exact ofItems_read settings url h s
  | data value =>
    unfold ofGiven ofValue
    dsimp only
    rcases hi : itemsOf value with c | items <;> simp only [Given.read, hi] at h
    · cases h
    · exact ofItems_read settings url h s

variable {settings url}

lemma withSession_unlaunched (h : Session.launch settings s = (.failed f, t)) :
    withSession settings url actions s = (.done (.error (.ofFailure f)), t) :=
  bind_done (attempt_failed h)

lemma withSession_held (h : Session.launch settings s = (.done session, t))
    {result : Except RunCause RunResult}
    (hs : settled (inSession settings session url actions) t = (.done result, u))
    {closed : Session} (hc : Session.close session u = (.done closed, v)) :
    withSession settings url actions s = (.done result, v) :=
  (bind_done (attempt_done h)).trans ((bind_done hs).trans (bind_done hc))

lemma withSession_endless (h : Session.launch settings s = (.endless, t)) :
    withSession settings url actions s = (.endless, t) :=
  bind_endless (attempt_endless h)

lemma withSession_hung (h : Session.launch settings s = (.done session, t))
    (hs : inSession settings session url actions t = (.endless, u)) :
    withSession settings url actions s = (.endless, u) :=
  (bind_done (attempt_done h)).trans (bind_endless (bind_endless (attempt_endless hs)))

lemma settled_done {α : Type} {p : Play Float (Except RunCause α)} {r : Except RunCause α}
    (h : p s = (.done r, t)) : settled p s = (.done r, t) :=
  bind_done (attempt_done h)

lemma settled_failed {α : Type} {p : Play Float (Except RunCause α)}
    (h : p s = (.failed f, t)) : settled p s = (.done (.error (.ofFailure f)), t) :=
  bind_done (attempt_failed h)

lemma settled_cases {α : Type} {p : Play Float (Except RunCause α)} {r : Except RunCause α}
    (h : settled p s = (.done r, t)) :
    p s = (.done r, t) ∨ ∃ f, p s = (.failed f, t) ∧ r = .error (.ofFailure f) := by
  rcases hp : p s with ⟨x | f | _, u⟩
  · cases (settled_done hp).symm.trans h
    exact .inl rfl
  · cases (settled_failed hp).symm.trans h
    exact .inr ⟨f, rfl, rfl⟩
  · cases (bind_endless (attempt_endless hp)).symm.trans h

section Finish

variable {state : State}

lemma finish_pageless
    (hp : Session.ensureActive (settings .browserTimeout) state.current s = (.failed f, t)) :
    finish settings state s = (.failed f, t) :=
  bind_failed hp

variable {page : Nat}
  (hp : Session.ensureActive (settings .browserTimeout) state.current s = (.done page, t))

include hp

lemma finish_untold (hc : (Point.ofStage .final page t).capture settings t = (.failed f, u)) :
    finish settings state s = (.failed f, u) :=
  (bind_done hp).trans (bind_failed (bind_failed hc))

variable {r : Option Record}
  (hc : (Point.ofStage .final page t).capture settings t = (.done r, u))

include hc

lemma finish_unread (hh : Browser.safeMarkup page 3 500 u = (.failed f, v)) :
    finish settings state s = (.failed f, v) := by
  have recorded : recordStage settings page "final" t = (.done (), u) := bind_done hc
  exact (bind_done hp).trans ((bind_done recorded).trans (bind_failed hh))

lemma finish_done {html : String}
    (hh : Browser.safeMarkup page 3 500 u = (.done html, v)) :
    finish settings state s = (.done ⟨html, v.records, state.extracted, v.watch⟩, v) := by
  have recorded : recordStage settings page "final" t = (.done (), u) := bind_done hc
  exact (bind_done hp).trans ((bind_done recorded).trans (bind_done hh))

end Finish

/-- The state in which a session's first action is begun. -/
def State.start (session : Session) (s : Stage Float) : State where
  session := session
  current := session.firstPage
  baseline := ⟨s.watch.marker, s.pageCount⟩

lemma inSession_unnavigated (h : Browser.goto session.firstPage url s = (.failed f, t)) :
    inSession settings session url actions s =
      (.done (.error (.navigationFailed url f.message)), t) :=
  bind_done (attempt_failed h)

section Navigated

variable (h : Browser.goto session.firstPage url s = (.done (), t))

include h

lemma inSession_begun
    (hi : (Point.ofStage .initial session.firstPage t).capture settings t = (.failed f, u)) :
    inSession settings session url actions s = (.failed f, u) :=
  (bind_done (attempt_done h)).trans (bind_failed (bind_failed hi))

variable {r : Option Record}
  (hi : (Point.ofStage .initial session.firstPage t).capture settings t = (.done r, u))

include hi

lemma inSession_acting : inSession settings session url actions s =
    (executeAll settings 1 (State.start session u) actions >>= fun
      | .error cause => return .error cause
      | .ok state => return .ok (← finish settings state) :
      Play Float (Except RunCause RunResult)) u := by
  have recorded : recordStage settings session.firstPage "initial" t = (.done (), u) :=
    bind_done hi
  refine (bind_done (attempt_done h)).trans ((bind_done recorded).trans
    ((bind_done (baseline_run u)).trans ?_))
  refine congrFun (congrArg _ ?_) u
  funext r
  cases r <;> rfl

variable {state : State}

lemma inSession_stopped (hx : executeAll settings 1 (State.start session u) actions u =
    (.done (.error cause), v)) :
    inSession settings session url actions s = (.done (.error cause), v) :=
  (inSession_acting h hi).trans (bind_done hx)

lemma inSession_lost (hx : executeAll settings 1 (State.start session u) actions u =
    (.failed f, v)) : inSession settings session url actions s = (.failed f, v) :=
  (inSession_acting h hi).trans (bind_failed hx)

lemma inSession_hung (hx : executeAll settings 1 (State.start session u) actions u =
    (.endless, v)) : inSession settings session url actions s = (.endless, v) :=
  (inSession_acting h hi).trans (bind_endless hx)

lemma inSession_finishing
    (hx : executeAll settings 1 (State.start session u) actions u = (.done (.ok state), v)) :
    inSession settings session url actions s =
      (do return .ok (← finish settings state) : Play Float (Except RunCause RunResult)) v :=
  (inSession_acting h hi).trans (bind_done hx)

end Navigated

section Whole

variable (settings url g actions s)

/-- How a run goes whose actions could be read. -/
inductive Ran : Prop
  | unlaunched (f : Failure) (t : Stage Float)
      (h : Session.launch settings (opened s) = (.failed f, t)) (calls : List (Call Float))
      (called : Stage.Called calls (opened s) t) (ended : Session.Teardown s.faults calls)
      (hr : ofGiven settings url g s = (.done (.error ⟨.ofFailure f, t.records⟩), t))
  | held (session : Session) (t : Stage Float)
      (h : Session.launch settings (opened s) = (.done session, t)) (calls : List (Call Float))
      (called : Stage.Called calls (opened s) t)
      (ahead : ∀ during : List (Call Float), (∀ c ∈ during, c.isService = false) →
        Session.Teardown s.faults (calls ++ during ++
          [.service .closeContext, .service .closeBrowser, .service .stop]))
      (result : Except RunCause RunResult) (u : Stage Float)
      (hs : settled (inSession settings session url actions) t = (.done result, u))
      (v : Stage Float) (hc : Session.close session u = (.done { session with closed := true }, v))
      (closing : Stage.Called [.service .closeContext, .service .closeBrowser, .service .stop] u v)
      (hr : ofGiven settings url g s = (.done (result.mapError (⟨·, u.records⟩)), v))
  | hung (t : Stage Float) (hr : ofGiven settings url g s = (.endless, t))
      (he : (settings .cdpUrl : String) ≠ "" ∨ ∃ p, .switchToPopup p ∈ actions)
      (waited : s.Exhausted t)

lemma withLedger_run {α : Type} (r : Except RunCause α) (s : Stage Float) :
    withLedger r s = (.done (r.mapError (⟨·, s.records⟩)), s) := by
  cases r <;> rfl

variable {g actions}

theorem ran (hg : g.read = .ok actions) : Ran settings url g actions s := by
  have course := ofGiven_read settings url hg s
  rcases Session.launched settings (opened s) with
    ⟨session, owned, fresh, t, h, calls, called, ahead⟩ | ⟨f, t, h, calls, called, ended⟩ |
    ⟨t, h, remote, waited⟩
  · have quiet : Within (Deeds (settings .browserTimeout) anyRecord)
        (∃ p, .switchToPopup p ∈ actions) (inSession settings session url actions) :=
      inSession_deeds settings session url actions fun p hp => ⟨p, hp⟩
    have held {result : Except RunCause RunResult} {u : Stage Float}
        (hs : settled (inSession settings session url actions) t = (.done result, u)) :
        Ran settings url g actions s := by
      obtain ⟨v, hc, closing⟩ := Session.closing owned fresh u
      refine .held session t h calls called ahead result u hs v hc closing ?_
      have same : v.records = u.records := congrArg List.reverse closing.ledger
      rw [course, bind_done (withSession_held h hs hc), withLedger_run, same]
    rcases hs : inSession settings session url actions t with ⟨result | f | _, u⟩
    · exact held (settled_done hs)
    · exact held (settled_failed hs)
    · have waited := (inSession_waits settings session url actions t).2 (congrArg Prod.fst hs)
      rw [hs] at waited
      exact .hung u (course.trans (bind_endless (withSession_hung h hs)))
        (.inr ((quiet t).2 (congrArg Prod.fst hs)))
        (.of_onward (s := opened s) called.onward waited)
  · refine .unlaunched f t h calls called ended ?_
    rw [course, bind_done (withSession_unlaunched h), withLedger_run]
    rfl
  · exact .hung t (course.trans (bind_endless (withSession_endless h))) (.inl remote) waited

end Whole

end Run
end Rehearsal
