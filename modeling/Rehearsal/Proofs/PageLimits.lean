import Rehearsal.Proofs.CurrentPage
import Rehearsal.Proofs.PopupReturn

/-!
# The limits of the pages of a run

Whatever page a run is on, and however it has come there, both limits of this page are those of
the settings. The page of the launch gets them when the session begins, a page that replaces a
closed one or that a search moves to when the run goes over to it, and a page that comes up
during the session at once. Nothing ever takes the limits from a page again.
-/

namespace Rehearsal

open Play

section Moving

variable {τ : Type} [Clock τ] {limit : Int} {page next : Nat} {s t : Stage τ}

/-- A call that gets through finds its page open. -/
lemma Browser.enter_shown {id : Nat} {entry : Call τ} {name : String}
    (h : enter id entry name s = (.done (), t)) : s.isClosed id = false := by
  obtain ⟨⟨⟩, u, noted, h⟩ := done_of_bind h
  cases noted
  refine Bool.eq_false_iff.mpr fun closed => ?_
  have refused : (do
      if ← Play.look (·.isClosed id) then raise closedMessage
      followScript id name : Play τ Unit) (s.note entry) =
        (.failed (.driver { message := closedMessage }), s.note entry) := by
    have shut : (s.note entry).isClosed id = true := closed
    rw [bind_done (look_run _ (s.note entry)), shut]
    rfl
  cases refused.symm.trans h

lemma Browser.goto_shown {id : Nat} {url : Value} (h : goto id url s = (.done (), t)) :
    s.isClosed id = false := by
  obtain ⟨⟨⟩, u, entered, -⟩ := done_of_bind h
  exact enter_shown entered

omit [Clock τ] in
/-- The page of the launch has the limits, if it exists. -/
lemma Session.Fresh.limited {session : Session} (fresh : session.Fresh limit t)
    (known : t.Known session.firstPage) : t.Limited limit session.firstPage := by
  obtain ⟨s, rfl⟩ := fresh.configured
  obtain ⟨q, hq⟩ := known
  rw [Stage.configureTimeouts, Stage.page?_updatePage, if_pos rfl, Option.map_eq_some_iff] at hq
  obtain ⟨p, hp, -⟩ := hq
  exact Stage.Known.configured ⟨p, hp⟩ limit

namespace Popup

variable {plan : Plan τ} {w : Wanted}

/-- The page that a search moves to gets the limits on the way. -/
lemma accept_limited (known : s.Known page) (h : accept plan page s = (.done next, t)) :
    t.Limited plan.pageTimeout next := by
  obtain ⟨stable, u, stabilized, h⟩ := done_of_bind h
  obtain ⟨⟨⟩, v, configured, h⟩ := done_of_bind h
  cases configured
  obtain ⟨⟨⟩, x, paused, h⟩ := done_of_bind h
  cases h
  have waiting : Deeds plan.pageTimeout Run.anyRecord s u :=
    (Browser.stabilize_deeds (E := True) page _).stage stabilized
  have settling : Deeds plan.pageTimeout Run.anyRecord (u.configureTimeouts page plan.pageTimeout)
      t := (pause_deeds (E := True) _).stage paused
  exact settling.ages.limited ((waiting.ages.known known).configured plan.pageTimeout)

/-- Whatever signal a search follows, it goes on with a page that has the limits. -/
lemma switch_limited (limited : s.Limited plan.pageTimeout w.current)
    (h : switch plan w s = (.done next, t)) : t.Limited plan.pageTimeout next := by
  have searched : Deeds plan.pageTimeout Run.anyRecord s t := (switch_deeds plan w).stage h
  obtain ⟨e, u, hs, decided⟩ := switch_ends plan w s
  cases hs.symm.trans h
  cases decided with
  | moved picked settled => exact accept_limited (Stage.known_of_open picked.shown) settled
  | inside past inside => exact searched.ages.limited limited
  | kept alone optional shown => exact searched.ages.limited limited

end Popup

end Moving

namespace Run

variable {settings : Settings} {url : Value} {index : Nat} {a : Action}
  {before actions : List Action} {session : Session} {state last : State} {page : Nat}
  {s t u v : Stage Float}

/-- The page that the run is on has the limits of the settings, and so has the page to which it
may go back. -/
structure State.Limited (settings : Settings) (state : State) (s : Stage Float) : Prop where
  current : s.Limited (settings .browserTimeout) state.current
  first : s.Limited (settings .browserTimeout) state.session.firstPage

lemma State.Limited.later (limited : state.Limited settings s)
    (h : Deeds (settings .browserTimeout) anyRecord s t) : state.Limited settings t :=
  ⟨h.ages.limited limited.current, h.ages.limited limited.first⟩

/-- Going back ends on the page of the launch. -/
lemma switchToMain_current (h : switchToMain state s = (.done last, t)) :
    last.current = state.session.firstPage := by
  obtain ⟨closed, u, -, h⟩ := done_of_bind (goOn_done h)
  have fronted (h : (do
      Browser.bringToFront state.session.firstPage
      return state.session.firstPage : Play Float Nat) u = (.done last.current, t)) :
      last.current = state.session.firstPage := by
    obtain ⟨⟨⟩, v, -, h⟩ := done_of_bind h
    exact (Ending.done.inj (congrArg Prod.fst h)).symm
  dsimp only at h
  split at h
  · obtain ⟨⟨⟩, v, failed, -⟩ := done_of_bind h
    cases failed
  · exact fronted h

lemma carryOut_limited (limited : state.Limited settings s)
    (h : carryOut settings index state a s = (.done last, t)) : last.Limited settings t := by
  have during : Deeds (settings .browserTimeout) anyRecord s t :=
    (carryOut_deeds (E := True) settings index state a (fun _ _ => trivial)
      fun _ _ _ _ _ => trivial).stage h
  have kept : state.Limited settings t := limited.later during
  constructor
  · by_cases plain : a.switches = false
    · exact (carryOut_keeps plain).limited limited.current h
    · rw [carryOut_eq] at h
      cases a with
      | switchToPopup p =>
        let plan : Popup.Plan Float := .ofSettings settings p.timeout
        have current : s.Limited plan.pageTimeout state.current := limited.current
        exact Popup.switch_limited current (goOn_done h)
      | switchToMain =>
        rw [switchToMain_current h]
        exact kept.first
      | _ => exact absurd rfl plain
  · rw [(carryOut_moves h).session]
    exact kept.first

/-- The step of a run: an action that is carried out leaves a page that has the limits. -/
lemma perform_limited (limited : state.Limited settings s)
    (h : perform settings index a state s = (.done last, t)) : last.Limited settings t := by
  obtain ⟨u, waited, carried⟩ := perform_carryOut h
  exact carryOut_limited (limited.later waited) carried

lemma execute_limited (limited : state.Limited settings s)
    (h : execute settings index a state s = (.done (.ok last), t)) : last.Limited settings t := by
  obtain ⟨next, u, r, hp, hc, rfl⟩ := execute_ok h
  have performed : next.Limited settings t :=
    (perform_limited limited hp).later (Point.deeds_of_capture hc)
  unfold State.after State.follow
  split
  · exact ⟨performed.current, performed.first⟩
  · exact performed

/-- The whole of a run: so do any number of completed actions. -/
lemma executeAll_limited (limited : state.Limited settings s)
    (h : executeAll settings index state actions s = (.done (.ok last), t)) :
    last.Limited settings t := by
  induction actions generalizing index state s with
  | nil =>
    cases h
    exact limited
  | cons a rest ih =>
    obtain ⟨r, u, hx, h⟩ := done_of_bind h
    cases r with
    | error cause => cases h
    | ok next => exact ih (execute_limited limited hx) h

lemma Raised.deeds {f : Failure} (h : Raised settings index a state s f page t) :
    Deeds (settings .browserTimeout) anyRecord s t := by
  cases h with
  | acting _ _ h => exact deeds_of_perform h
  | recording next u hp _ _ hc => exact (deeds_of_perform hp).trans (Point.deeds_of_capture hc)

/-- A failure leaves the run on a page that has the limits. -/
lemma Raised.limited {f : Failure} (limited : state.Limited settings s)
    (h : Raised settings index a state s f page t) :
    t.Limited (settings .browserTimeout) page := by
  cases h with
  | acting _ _ h => exact (limited.later (deeds_of_perform h)).current
  | recording next u hp _ _ hc =>
    exact ((perform_limited limited hp).later (Point.deeds_of_capture hc)).current

lemma lookInto_keeps : Keeps (settings .browserTimeout) page (fun shown => shown.getD page)
    (lookInto settings page) := by
  have shown : Keeps (settings .browserTimeout) page (fun shown => shown.getD page) (do
      let shown ← Play.attempt (Session.ensureActive (settings .browserTimeout) page)
      return shown.toOption : Play Float (Option Nat)) := by
    refine Session.ensureActive_keeps.attempt.bind fun r => .pure ?_
    cases r <;> rfl
  refine .after (.look _) fun closed => ?_
  dsimp only
  split
  · exact .after (Browser.title_deeds page).attempt fun _ => shown
  · exact shown

/-- An action of the run has failed, and those before it are completed. -/
inductive Failing (settings : Settings) (session : Session) (actions : List Action)
    (s : Stage Float) : Nat → Stage Float → Prop
  | intro (before rest : List Action) (a : Action) (split : actions = before ++ a :: rest)
      (state : State) (t : Stage Float)
      (h : executeAll settings 1 (State.start session s) before s = (.done (.ok state), t))
      (f : Failure) (page : Nat) (u : Stage Float)
      (hr : Raised settings (1 + before.length) a state t f page u) :
      Failing settings session actions s page u

/-- Where a run stands that has begun on this stage: the page it is on when an action begins or
all are over, when an action has failed, when the failure is documented, and when the last
record is made. -/
inductive Standing (settings : Settings) (session : Session) (actions : List Action)
    (s : Stage Float) : Nat → Stage Float → Prop
  | acting (before rest : List Action) (split : actions = before ++ rest) (state : State)
      (t : Stage Float)
      (h : executeAll settings 1 (State.start session s) before s = (.done (.ok state), t)) :
      Standing settings session actions s state.current t
  | failed {page : Nat} {t : Stage Float} (h : Failing settings session actions s page t) :
      Standing settings session actions s page t
  | documented {page : Nat} {t : Stage Float} (h : Failing settings session actions s page t)
      (shown : Nat) (u : Stage Float) (hl : lookInto settings page t = (.done (some shown), u)) :
      Standing settings session actions s shown u
  | finished (state : State) (t : Stage Float)
      (h : executeAll settings 1 (State.start session s) actions s = (.done (.ok state), t))
      (page : Nat) (u : Stage Float)
      (ha : Session.ensureActive (settings .browserTimeout) state.current t = (.done page, u)) :
      Standing settings session actions s page u

lemma Failing.deeds (h : Failing settings session actions s page t) :
    Deeds (settings .browserTimeout) anyRecord s t := by
  obtain ⟨before, rest, a, -, state, u, hx, f, page, t, hr⟩ := h
  exact (deeds_of_executeAll hx).trans hr.deeds

lemma Standing.deeds (h : Standing settings session actions s page t) :
    Deeds (settings .browserTimeout) anyRecord s t := by
  cases h with
  | acting before rest split state t h => exact deeds_of_executeAll h
  | failed h => exact h.deeds
  | documented h shown u hl =>
    exact h.deeds.trans ((lookInto_deeds (E := True) settings _).stage hl)
  | finished state u h page t ha =>
    exact (deeds_of_executeAll h).trans ((Session.ensureActive_deeds (E := True) _).stage ha)

lemma Failing.limited (limited : (State.start session s).Limited settings s)
    (h : Failing settings session actions s page t) :
    t.Limited (settings .browserTimeout) page := by
  obtain ⟨before, rest, a, -, state, u, hx, f, page, t, hr⟩ := h
  exact hr.limited (executeAll_limited limited hx)

lemma Standing.limited (limited : (State.start session s).Limited settings s)
    (h : Standing settings session actions s page t) :
    t.Limited (settings .browserTimeout) page := by
  cases h with
  | acting before rest split state t h => exact (executeAll_limited limited h).current
  | failed h => exact h.limited limited
  | documented h shown u hl => exact lookInto_keeps.limited (h.limited limited) hl
  | finished state u h page t ha =>
    have ended := (executeAll_limited limited h).current
    exact Session.ensureActive_keeps.limited ended ha

/-- Which limits there are at some moment of a run. -/
structure Bounded (settings : Settings) (launched : Stage Float) (page : Nat)
    (t : Stage Float) : Prop where
  /-- The page that the run is on has both limits from the settings. -/
  current : t.Limited (settings .browserTimeout) page
  /-- So has every page that the context has announced. -/
  announced : ∀ id ∈ t.watch.pagesCreated, t.Limited (settings .browserTimeout) id
  /-- It has announced all pages that have come up since the launch. -/
  complete : t.watch.pagesCreated = launched.pagesSince t

/-- A run that has begun is always on a page with the limits of the settings, whichever way it
has come there, and however old the page is. The pages that have come up since the launch have
these limits too. -/
theorem run_bounded (begun : Begun settings url s session v)
    (standing : Standing settings session actions v page u) :
    ∃ t, Session.launch settings s = (.done session, t) ∧ Bounded settings t page u := by
  obtain ⟨t, hl, w, hg, r, hi⟩ := begun
  have fresh := Session.launch_fresh hl
  have navigated : Deeds (settings .browserTimeout) anyRecord t w :=
    (Browser.goto_deeds (E := True) _ _).stage hg
  have begun : Deeds (settings .browserTimeout) anyRecord t v :=
    navigated.trans (Point.deeds_of_capture hi)
  have since : Deeds (settings .browserTimeout) anyRecord t u := begun.trans standing.deeds
  have announced : u.watch.pagesCreated = t.pagesSince u := by
    rw [since.attended.created fresh.listens, fresh.created, List.nil_append]
  -- The first navigation has got through, so the page of the launch is there.
  have launched : t.Limited (settings .browserTimeout) session.firstPage :=
    fresh.limited (Stage.known_of_open (Browser.goto_shown hg))
  have first : v.Limited (settings .browserTimeout) session.firstPage :=
    begun.ages.limited launched
  refine ⟨t, hl, ?_, ?_, announced⟩
  · exact standing.limited ⟨first, first⟩
  · intro id new
    rw [announced] at new
    exact since.ages.limited_since fresh.listens fresh.timeout new

/-- A tab that is older than the watch gets the limits when the run switches to it. -/
theorem run_bounded_popup : ∃ session v u,
    Begun Settings.standard (.text "https://x")
      { now := 0, prepared := [{}, { url := .text "https://pay.example" }] } session v ∧
    Standing Settings.standard session [.switchToPopup { domains := ["pay.example"] }] v 1 u ∧
    ∃ t, Session.launch Settings.standard
        { now := 0, prepared := [{}, { url := .text "https://pay.example" }] } =
          (.done session, t) ∧
      Bounded Settings.standard t 1 u := by
  let course : Play Float (Except RunCause State) := do
    let session ← Session.launch Settings.standard
    Browser.goto session.firstPage (.text "https://x")
    let _ ← fun s => (Point.ofStage .initial session.firstPage s).capture Settings.standard s
    executeAll Settings.standard 1 (← Play.look (State.start session))
      [.switchToPopup { domains := ["pay.example"] }]
  let s : Stage Float := { now := 0, prepared := [{}, { url := .text "https://pay.example" }] }
  have completed : (course s).1.value?.map (Except.toOption · |>.map (·.current)) =
      some (some 1) := by decide +kernel
  rcases h : course s with ⟨(cause | state) | f | _, u⟩ <;> rw [h] at completed
  · cases completed
  · obtain ⟨session, w, hl, h⟩ := done_of_bind h
    obtain ⟨⟨⟩, x, hg, h⟩ := done_of_bind h
    obtain ⟨r, v, hi, h⟩ := done_of_bind h
    have moved : state.current = 1 := Option.some.inj (Option.some.inj completed)
    have begun : Begun Settings.standard (.text "https://x") s session v := ⟨w, hl, x, hg, r, hi⟩
    have standing : Standing Settings.standard session
        [.switchToPopup { domains := ["pay.example"] }] v 1 u := by
      rw [← moved]
      exact .acting _ [] rfl state u h
    exact ⟨session, v, u, begun, standing, run_bounded begun standing⟩
  · cases completed
  · cases completed

end Run
end Rehearsal
