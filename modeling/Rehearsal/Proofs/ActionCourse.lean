import Rehearsal.Proofs.CapturePoints
import Rehearsal.Proofs.LoopCalls

/-!
# The course of an action

An action is completed when what it does and the capture after it raise nothing.
Otherwise the failure is looked into and documented, and the run fails with it. Only
a clock without a calendar moment keeps the documentation from being made.
-/

namespace Rehearsal.Run

open Play

variable (settings : Settings)

namespace Point

/-- After an attempt of a loop. -/
def ofCall (index : Nat) (l : Loop) (c : Target.HookCall Float) : Point where
  mark := .loop index c.attempt
  page := some c.page
  action := some "loopUntil"
  selector := .text l.xpath
  stage := c.stage

/-- After an action that has been carried out. -/
def ofAction (index : Nat) (a : Action) (page : Nat) (s : Stage Float) : Point where
  mark := .action index
  page := some page
  action := some a.name
  selector := a.target
  stage := s

/-- After an action that has failed. -/
def ofError (index : Nat) (a : Action) (shown : Option Nat) (f : Failure) (s : Stage Float) :
    Point where
  mark := .error index
  page := shown
  action := some a.name
  selector := a.target
  error := some f.message
  stage := s

/-- Before the first action and after the last. -/
def ofStage (mark : Mark) (page : Nat) (s : Stage Float) : Point where
  mark := mark
  page := some page
  stage := s

variable (p : Point)

/-- A point is without a record exactly when no picture can be had, on a clock that has
calendar moments. -/
lemma entry_none : p.entry settings = none ↔ p.Missed settings ∨ p.Untold settings := by
  unfold entry Untold
  rcases p.captured settings with ⟨f, t, h, -⟩ | ⟨t, h, hm, -⟩ | ⟨r, t, h, hm, -, -⟩ <;> rw [h]
  · exact ⟨fun _ => .inr ⟨f, rfl⟩, fun _ => rfl⟩
  · exact ⟨fun _ => .inl hm, fun _ => rfl⟩
  · constructor
    · intro he
      cases he
    · rintro (missed | ⟨f, hf⟩)
      · exact absurd missed hm
      · cases hf

lemma entry_step {r : Record} (hr : p.entry settings = some r) : r.step = p.mark.step := by
  unfold entry at hr
  rcases p.captured settings with ⟨f, t, h, -⟩ | ⟨t, h, -, -⟩ | ⟨s, t, h, -, hs, -⟩ <;>
    rw [h] at hr
  · cases hr
  · cases hr
  · cases hr
    exact hs

lemma capture_ledger {e : Ending (Option Record)} {t : Stage Float}
    (h : p.capture settings p.stage = (e, t)) :
    t.ledger = (p.entry settings).toList ++ p.stage.ledger := by
  unfold entry
  rw [h]
  rcases p.captured settings with ⟨f, u, hu, hl⟩ | ⟨u, hu, -, hl⟩ | ⟨r, u, hu, -, -, hl⟩ <;>
    (cases h.symm.trans hu; exact hl)

end Point

/-- The points of the attempts of a loop; other actions have none of their own. -/
def loopPoints (index : Nat) (a : Action) (state : State) (s : Stage Float) : List Point :=
  match a, (settings .captureLoopIterations : Bool) with
  | .loopUntil l, true =>
    match (do checkPreconditions state; today) s with
    | (.done reference, t) =>
      (Target.hookCalls (.ofSettings settings) l reference (loopHook settings index l) 1
        state.current (Target.attemptBound l settings).toNat t).map (Point.ofCall index l)
    | _ => []
  | _, _ => []

/-- The attempts are counted from one on. -/
lemma loopPoints_marks (index : Nat) (a : Action) (state : State) (s : Stage Float) :
    ∃ n : Nat, (loopPoints settings index a state s).map (·.mark) =
      (List.range n).map fun k : Nat => .loop index (1 + k) := by
  unfold loopPoints
  split
  · next l _ =>
    split
    · next reference t _ =>
      obtain ⟨n, hn⟩ := Target.hookCalls_attempts (.ofSettings settings) l reference
        (loopHook settings index l) 1 state.current (Target.attemptBound l settings).toNat t
      refine ⟨n, ?_⟩
      have marks := congrArg (List.map (Mark.loop index)) hn
      rw [List.map_map, List.map_map] at marks
      rw [List.map_map]
      exact marks
    · exact ⟨0, rfl⟩
  · exact ⟨0, rfl⟩

lemma loopPoints_off (off : (settings .captureLoopIterations : Bool) = false) (index : Nat)
    (a : Action) (state : State) (s : Stage Float) : loopPoints settings index a state s = [] := by
  unfold loopPoints
  rw [off]
  split
  · next h => cases h
  · rfl

lemma loopHook_ledger (on : (settings .captureLoopIterations : Bool) = true) (index : Nat)
    (l : Loop) (c : Target.HookCall Float) :
    (loopHook settings index l c.page c.attempt c.stage).2.ledger =
      ((Point.ofCall index l c).entry settings).toList ++ c.stage.ledger := by
  unfold loopHook
  rw [if_pos on, bind_pure_stage]
  exact (Point.ofCall index l c).capture_ledger settings rfl

/-- A loop counts up to the date that is known when it begins. -/
lemma repeatLoop_run {index : Nat} {l : Loop} {state : State} {s : Stage Float}
    {reference : String} (ht : today s = (.done reference, s)) :
    repeatLoop settings index state l s =
      state.goOn (Target.loopUntil (.ofSettings settings) l reference
        (Target.attemptBound l settings) (loopHook settings index l) state.current) s := by
  rw [repeatLoop, State.goOn, bind_run, bind_done ht, ← bind_run, State.goOn]

/-- A loop runs its attempts, if the preconditions hold and the date is known. -/
lemma perform_loop {index : Nat} {l : Loop} {state : State} {s : Stage Float}
    {reference : String} (hc : checkPreconditions state s = (.done (), s))
    (ht : today s = (.done reference, s)) :
    perform settings index (.loopUntil l) state s =
      state.goOn (Target.loopUntil (.ofSettings settings) l reference
        (Target.attemptBound l settings) (loopHook settings index l) state.current) s := by
  have course : perform settings index (.loopUntil l) state s =
      repeatLoop settings index state l s := bind_done hc
  rw [course, repeatLoop_run settings ht]

/-- What an action does before its own capture adds the records of its attempts. -/
lemma perform_ledger (index : Nat) (a : Action) (state : State) (s : Stage Float) :
    (perform settings index a state s).2.ledger =
      ((loopPoints settings index a state s).filterMap (·.entry settings)).reverse ++
        s.ledger := by
  by_cases documented : ∃ l, a = .loopUntil l ∧ (settings .captureLoopIterations : Bool) = true
  · obtain ⟨l, rfl, on⟩ := documented
    have checked : Within Eq False (checkPreconditions state) := checkPreconditions_within state
    have dated : Within Eq False today := today_within
    unfold loopPoints
    rw [on]
    rcases hc : checkPreconditions state s with ⟨⟨⟩ | f | _, s'⟩
    · obtain rfl := checked.stage hc
      rw [bind_done hc]
      rcases ht : today s with ⟨reference | f | _, s'⟩
      · obtain rfl := dated.stage ht
        rw [perform_loop settings hc ht, State.goOn, bind_pure_stage]
        dsimp only
        rw [List.filterMap_map]
        exact Target.loopFrom_ledger _ _ _ _ _ _ (loopHook_ledger settings on index l) _ _ _ _ _
      · obtain rfl := dated.stage ht
        have course : perform settings index (.loopUntil l) state s = (.failed f, s) :=
          (bind_done hc).trans (bind_failed (bind_failed ht))
        rw [course]
        rfl
      · exact absurd (congrArg Prod.fst ht) (dated.ends s)
    · obtain rfl := checked.stage hc
      have course : perform settings index (.loopUntil l) state s = (.failed f, s) :=
        bind_failed hc
      rw [course, bind_failed hc]
      rfl
    · exact absurd (congrArg Prod.fst hc) (checked.ends s)
  · have quiet : Within (Deeds (settings .browserTimeout) noRecord) True
        (perform settings index a state) :=
      perform_deeds settings index state a (fun _ _ => trivial)
        fun l hl on => absurd ⟨l, hl, on⟩ documented
    have none : loopPoints settings index a state s = [] := by
      unfold loopPoints
      split
      · next l on => exact absurd ⟨l, rfl, on⟩ documented
      · rfl
    rw [none]
    exact (quiet s).1.ledger

/-- An attempt that the clock does not let be documented ends its action with a failure of
the clock. -/
lemma loopPoints_untold {index : Nat} {a : Action} {state : State} {s : Stage Float} {p : Point}
    (hp : p ∈ loopPoints settings index a state s) (hu : p.Untold settings) :
    ∃ (f : ClockFault) (t : Stage Float),
      perform settings index a state s = (.failed (.clock f), t) := by
  have checked : Within Eq False (checkPreconditions state) := checkPreconditions_within state
  have dated : Within Eq False today := today_within
  unfold loopPoints at hp
  split at hp
  · next l on =>
    split at hp
    · next reference t ht =>
      rcases hc : checkPreconditions state s with ⟨⟨⟩ | f | _, s'⟩
      · obtain rfl := checked.stage hc
        have ht := (bind_done hc).symm.trans ht
        obtain rfl := dated.stage ht
        obtain ⟨c, hmem, rfl⟩ := List.mem_map.mp hp
        obtain ⟨f, hf⟩ := hu
        have hooked : (loopHook settings index l c.page c.attempt c.stage).1 =
            .failed (.clock f) := by
          unfold loopHook
          rw [if_pos on]
          exact congrArg Prod.fst (bind_failed (Prod.ext hf rfl))
        have looped := Target.loopFrom_failed (.ofSettings settings) l reference _
          (Target.attemptBound l settings) hooked 1 state.current none _ _ hmem
        exact ⟨f, _, (perform_loop settings hc ht).trans (bind_failed (Prod.ext looped rfl))⟩
      · cases (bind_failed hc).symm.trans ht
      · cases (bind_endless hc).symm.trans ht
    · cases hp
  · cases hp

/-- Looking into a failure always comes to an end, and what it meets is not raised. -/
lemma lookInto_done (page : Nat) (s : Stage Float) :
    ∃ shown t, lookInto settings page s = (.done shown, t) := by
  have active : Within (Deeds (settings .browserTimeout) noRecord) False
      (Session.ensureActive (settings .browserTimeout) page : Play Float Nat) :=
    Session.ensureActive_deeds page
  have titled : Within (Deeds (settings .browserTimeout) noRecord) False
      (Browser.title page : Play Float String) := Browser.title_deeds page
  have last (s : Stage Float) : ∃ shown t, (do
      let shown ← Play.attempt (Session.ensureActive (settings .browserTimeout) page)
      return shown.toOption : Play Float (Option Nat)) s = (.done shown, t) := by
    obtain ⟨r, t, h⟩ := active.attempt_done s
    exact ⟨_, t, bind_done h⟩
  unfold lookInto
  rw [bind_done (look_run _ s)]
  dsimp only
  split
  · obtain ⟨r, t, h⟩ := titled.attempt_done s
    rw [bind_done h]
    exact last t
  · exact last s

variable {settings}
variable {index : Nat} {a : Action} {state next : State} {s t u v : Stage Float} {f g : Failure}

/-- A failure that an action raises, with the page the run is on and the stage that it
leaves: one of what the action does, or one of the capture afterwards. -/
inductive Raised (settings : Settings) (index : Nat) (a : Action) (state : State)
    (s : Stage Float) : Failure → Nat → Stage Float → Prop
  | acting (f : Failure) (t : Stage Float) (h : perform settings index a state s = (.failed f, t)) :
      Raised settings index a state s f state.current t
  | recording (next : State) (t : Stage Float)
      (hp : perform settings index a state s = (.done next, t)) (f : Failure) (u : Stage Float)
      (hc : (Point.ofAction index a next.current t).capture settings t = (.failed f, u)) :
      Raised settings index a state s f next.current u

/-- The state that an action which was begun on a stage leaves. -/
abbrev State.after (next : State) (a : Action) (s : Stage Float) : State :=
  next.follow a ⟨s.watch.marker, s.pageCount⟩

lemma baseline_run (s : Stage Float) : Session.Baseline.capture s =
    (.done ⟨s.watch.marker, s.pageCount⟩, s) := rfl

lemma execute_completed (hp : perform settings index a state s = (.done next, t))
    {r : Option Record}
    (hc : (Point.ofAction index a next.current t).capture settings t = (.done r, u)) :
    execute settings index a state s = (.done (.ok (next.after a s)), u) := by
  have recorded : recordAction settings (some next.current) ("action " ++ toString index) a none t =
      (.done (), u) := bind_done hc
  unfold execute
  rw [bind_done (baseline_run s), bind_done (attempt_done hp)]
  dsimp only
  rw [bind_done (attempt_done recorded)]
  rfl

lemma execute_raised {page : Nat} (hr : Raised settings index a state s f page t) :
    execute settings index a state s =
      (do return .error (← diagnose settings index a page f) :
        Play Float (Except RunCause State)) t := by
  unfold execute
  cases hr with
  | acting _ _ h => rw [bind_done (baseline_run s), bind_done (attempt_failed h)]
  | recording next u hp _ _ hc =>
    have recorded : recordAction settings (some next.current) ("action " ++ toString index) a none
        u = (.failed f, t) := bind_failed hc
    rw [bind_done (baseline_run s), bind_done (attempt_done hp)]
    dsimp only
    rw [bind_done (attempt_failed recorded)]

lemma execute_failed {page : Nat} (hr : Raised settings index a state s f page t)
    {shown : Option Nat} (hl : lookInto settings page t = (.done shown, u)) {r : Option Record}
    (hc : (Point.ofError index a shown f u).capture settings u = (.done r, v)) :
    execute settings index a state s =
      (.done (.error (.actionFailed index a.name f.message f.code?)), v) := by
  have documented : recordAction settings shown ("error on action " ++ toString index) a
      (some f.message) u = (.done (), v) := bind_done hc
  rw [execute_raised hr]
  refine bind_done ?_
  unfold diagnose
  rw [bind_done hl, bind_done documented]
  rfl

lemma execute_lost {page : Nat} (hr : Raised settings index a state s f page t)
    {shown : Option Nat} (hl : lookInto settings page t = (.done shown, u))
    (hc : (Point.ofError index a shown f u).capture settings u = (.failed g, v)) :
    execute settings index a state s = (.failed g, v) := by
  have undocumented : recordAction settings shown ("error on action " ++ toString index) a
      (some f.message) u = (.failed g, v) := bind_failed hc
  rw [execute_raised hr]
  refine bind_failed ?_
  unfold diagnose
  rw [bind_done hl, bind_failed undocumented]

lemma execute_endless (h : perform settings index a state s = (.endless, t)) :
    execute settings index a state s = (.endless, t) := by
  unfold execute
  rw [bind_done (baseline_run s), bind_endless (attempt_endless h)]

variable (settings index a state s)

/-- How an action goes. -/
inductive Execution : Prop
  | completed (next : State) (t : Stage Float)
      (hp : perform settings index a state s = (.done next, t)) (r : Option Record)
      (u : Stage Float)
      (hc : (Point.ofAction index a next.current t).capture settings t = (.done r, u))
      (h : execute settings index a state s = (.done (.ok (next.after a s)), u))
  | failed (f : Failure) (page : Nat) (t : Stage Float)
      (hr : Raised settings index a state s f page t) (shown : Option Nat) (u : Stage Float)
      (hl : lookInto settings page t = (.done shown, u)) (r : Option Record) (v : Stage Float)
      (hc : (Point.ofError index a shown f u).capture settings u = (.done r, v))
      (h : execute settings index a state s =
        (.done (.error (.actionFailed index a.name f.message f.code?)), v))
  | lost (f : Failure) (page : Nat) (t : Stage Float)
      (hr : Raised settings index a state s f page t) (shown : Option Nat) (u : Stage Float)
      (hl : lookInto settings page t = (.done shown, u)) (g : ClockFault) (v : Stage Float)
      (hc : (Point.ofError index a shown f u).capture settings u = (.failed (.clock g), v))
      (h : execute settings index a state s = (.failed (.clock g), v))
  | endless (t : Stage Float) (hp : perform settings index a state s = (.endless, t))
      (h : execute settings index a state s = (.endless, t))

variable {settings index a state s} in
lemma Raised.execution {page : Nat} (hr : Raised settings index a state s f page t) :
    Execution settings index a state s := by
  obtain ⟨shown, u, hl⟩ := lookInto_done settings page t
  rcases (Point.ofError index a shown f u).captured settings with
    ⟨g, v, hc, -⟩ | ⟨v, hc, -, -⟩ | ⟨r, v, hc, -, -, -⟩
  · exact .lost f page t hr shown u hl g v hc (execute_lost hr hl hc)
  · exact .failed f page t hr shown u hl _ v hc (execute_failed hr hl hc)
  · exact .failed f page t hr shown u hl _ v hc (execute_failed hr hl hc)

theorem execution : Execution settings index a state s := by
  rcases hp : perform settings index a state s with ⟨next | f | _, t⟩
  · rcases (Point.ofAction index a next.current t).captured settings with
      ⟨g, u, hc, -⟩ | ⟨u, hc, -, -⟩ | ⟨r, u, hc, -, -, -⟩
    · exact (Raised.recording next t hp _ u hc).execution
    · exact .completed next t hp _ u hc (execute_completed hp hc)
    · exact .completed next t hp _ u hc (execute_completed hp hc)
  · exact (Raised.acting f t hp).execution
  · exact .endless t hp (execute_endless hp)

variable {settings index a state s} in
/-- A completed action has been performed and captured. -/
lemma execute_ok {last : State} (h : execute settings index a state s = (.done (.ok last), u)) :
    ∃ next t r, perform settings index a state s = (.done next, t) ∧
      (Point.ofAction index a next.current t).capture settings t = (.done r, u) ∧
      last = next.after a s := by
  rcases execution settings index a state s with ⟨next, t, hp, r, v, hc, hx⟩ |
    ⟨f, page, t, -, shown, v, -, r, w, -, hx⟩ | ⟨f, page, t, -, shown, v, -, g, w, -, hx⟩ |
    ⟨t, -, hx⟩
  · cases hx.symm.trans h
    exact ⟨next, t, r, hp, hc, rfl⟩
  · cases hx.symm.trans h
  · cases hx.symm.trans h
  · cases hx.symm.trans h

variable {settings index a state s} in
/-- The run fails with an action once its failure has been looked into and documented. -/
lemma execute_error {cause : RunCause}
    (h : execute settings index a state s = (.done (.error cause), v)) :
    ∃ f page t shown u r, Raised settings index a state s f page t ∧
      lookInto settings page t = (.done shown, u) ∧
      (Point.ofError index a shown f u).capture settings u = (.done r, v) := by
  rcases execution settings index a state s with ⟨next, t, -, r, u, -, hx⟩ |
    ⟨f, page, t, hr, shown, u, hl, r, w, hc, hx⟩ | ⟨f, page, t, -, shown, u, -, g, w, -, hx⟩ |
    ⟨t, -, hx⟩
  · cases hx.symm.trans h
  · cases hx.symm.trans h
    exact ⟨f, page, t, shown, u, r, hr, hl, hc⟩
  · cases hx.symm.trans h
  · cases hx.symm.trans h

end Rehearsal.Run
