import Rehearsal.Proofs.RunCourse

/-!
# The ledger of a run

A run reaches capture points in a fixed order, and its ledger consists of the records of
these points, in this order. A point without a record is one of which no picture could be
had; the only other reason is a clock that has no calendar moment, and then the run fails.
-/

namespace Rehearsal.Run

open Play

/-- What comes after the last action, with the point that is reached if there is a page. -/
inductive Finished (settings : Settings) (state : State) (s : Stage Float) :
    List Point → Ending RunResult → Stage Float → Prop
  | pageless {f : Failure} {t : Stage Float}
      (hp : Session.ensureActive (settings .browserTimeout) state.current s = (.failed f, t)) :
      Finished settings state s [] (.failed f) t
  | untold {page : Nat} {f : Failure} {t u : Stage Float}
      (hp : Session.ensureActive (settings .browserTimeout) state.current s = (.done page, t))
      (hc : (Point.ofStage .final page t).capture settings t = (.failed f, u)) :
      Finished settings state s [.ofStage .final page t] (.failed f) u
  | unread {page : Nat} {r : Option Record} {f : Failure} {t u v : Stage Float}
      (hp : Session.ensureActive (settings .browserTimeout) state.current s = (.done page, t))
      (hc : (Point.ofStage .final page t).capture settings t = (.done r, u))
      (hh : Browser.safeMarkup page 3 500 u = (.failed f, v)) :
      Finished settings state s [.ofStage .final page t] (.failed f) v
  | done {page : Nat} {r : Option Record} {html : String} {t u v : Stage Float}
      (hp : Session.ensureActive (settings .browserTimeout) state.current s = (.done page, t))
      (hc : (Point.ofStage .final page t).capture settings t = (.done r, u))
      (hh : Browser.safeMarkup page 3 500 u = (.done html, v)) :
      Finished settings state s [.ofStage .final page t]
        (.done ⟨html, v.records, state.extracted, v.watch⟩) v

/-- The points that a session reaches after its launch, with how it ends and the stage it
leaves to be closed. -/
inductive Visited (settings : Settings) (url : Value) (session : Session) (actions : List Action)
    (s : Stage Float) : List Point → Ending (Except RunCause RunResult) → Stage Float → Prop
  | unnavigated {f : Failure} {t : Stage Float}
      (h : Browser.goto session.firstPage url s = (.failed f, t)) :
      Visited settings url session actions s [] (.done (.error (.navigationFailed url f.message))) t
  | untold {t u : Stage Float} {f : Failure}
      (h : Browser.goto session.firstPage url s = (.done (), t))
      (hi : (Point.ofStage .initial session.firstPage t).capture settings t = (.failed f, u)) :
      Visited settings url session actions s [.ofStage .initial session.firstPage t] (.failed f) u
  | stopped {t u v : Stage Float} {r : Option Record} {pts : List Point} {cause : RunCause}
      (h : Browser.goto session.firstPage url s = (.done (), t))
      (hi : (Point.ofStage .initial session.firstPage t).capture settings t = (.done r, u))
      (ha : Acts settings 1 (State.start session u) u actions pts (.done (.error cause)) v) :
      Visited settings url session actions s (.ofStage .initial session.firstPage t :: pts)
        (.done (.error cause)) v
  | lost {t u v : Stage Float} {r : Option Record} {pts : List Point} {f : Failure}
      (h : Browser.goto session.firstPage url s = (.done (), t))
      (hi : (Point.ofStage .initial session.firstPage t).capture settings t = (.done r, u))
      (ha : Acts settings 1 (State.start session u) u actions pts (.failed f) v) :
      Visited settings url session actions s (.ofStage .initial session.firstPage t :: pts)
        (.failed f) v
  | failed {t u v w : Stage Float} {r : Option Record} {pts last : List Point} {state : State}
      {f : Failure} (h : Browser.goto session.firstPage url s = (.done (), t))
      (hi : (Point.ofStage .initial session.firstPage t).capture settings t = (.done r, u))
      (ha : Acts settings 1 (State.start session u) u actions pts (.done (.ok state)) v)
      (hf : Finished settings state v last (.failed f) w) :
      Visited settings url session actions s
        (.ofStage .initial session.firstPage t :: (pts ++ last)) (.failed f) w
  | done {t u v w : Stage Float} {r : Option Record} {pts last : List Point} {state : State}
      {result : RunResult} (h : Browser.goto session.firstPage url s = (.done (), t))
      (hi : (Point.ofStage .initial session.firstPage t).capture settings t = (.done r, u))
      (ha : Acts settings 1 (State.start session u) u actions pts (.done (.ok state)) v)
      (hf : Finished settings state v last (.done result) w) :
      Visited settings url session actions s
        (.ofStage .initial session.firstPage t :: (pts ++ last)) (.done (.ok result)) w

/-- The points that a run reaches from its launch on. -/
inductive Reached (settings : Settings) (url : Value) (actions : List Action) (s : Stage Float) :
    List Point → Prop
  | unlaunched {f : Failure} {t : Stage Float} (h : Session.launch settings s = (.failed f, t)) :
      Reached settings url actions s []
  | launched {session : Session} {t u : Stage Float} {pts : List Point}
      {e : Ending (Except RunCause RunResult)}
      (h : Session.launch settings s = (.done session, t))
      (hv : Visited settings url session actions t pts e u) : Reached settings url actions s pts

variable {settings : Settings} {url : Value} {session : Session} {actions : List Action}
  {state : State} {s t : Stage Float} {pts : List Point}

section Quiet

variable (settings) (page : Nat)

lemma ensureActive_quiet : Within (Deeds (settings .browserTimeout) noRecord) False
    (Session.ensureActive (settings .browserTimeout) page : Play Float Nat) :=
  Session.ensureActive_deeds page

lemma content_quiet : Within (Deeds (settings .browserTimeout) noRecord) False
    (Browser.safeMarkup page 3 500) :=
  Browser.safeMarkup_deeds page 3 500

lemma goto_quiet (url : Value) : Within (Deeds (settings .browserTimeout) noRecord) False
    (Browser.goto page url : Play Float Unit) :=
  Browser.goto_deeds page url

end Quiet

theorem finished (settings : Settings) (state : State) (s : Stage Float) :
    ∃ pts e t, finish settings state s = (e, t) ∧ Finished settings state s pts e t := by
  rcases hp : Session.ensureActive (settings .browserTimeout) state.current s with ⟨page | f | _, t⟩
  · have recorded {r : Option Record} {u : Stage Float}
        (hc : (Point.ofStage .final page t).capture settings t = (.done r, u)) :
        ∃ pts e t, finish settings state s = (e, t) ∧ Finished settings state s pts e t := by
      rcases hh : Browser.safeMarkup page 3 500 u with ⟨html | f | _, v⟩
      · exact ⟨_, _, v, finish_done hp hc hh, .done hp hc hh⟩
      · exact ⟨_, _, v, finish_unread hp hc hh, .unread hp hc hh⟩
      · exact absurd (congrArg Prod.fst hh) ((content_quiet settings page).ends u)
    rcases (Point.ofStage .final page t).captured settings with
      ⟨g, u, hc, -⟩ | ⟨u, hc, -, -⟩ | ⟨r, u, hc, -, -, -⟩
    · exact ⟨_, _, u, finish_untold hp hc, .untold hp hc⟩
    · exact recorded hc
    · exact recorded hc
  · exact ⟨_, _, t, finish_pageless hp, .pageless hp⟩
  · exact absurd (congrArg Prod.fst hp) ((ensureActive_quiet settings _).ends s)

/-- A session that has begun with its first capture goes as its actions go. -/
lemma visited_acting {e : Ending (Except RunCause RunResult)} {u v : Stage Float}
    {r : Option Record} (h : Browser.goto session.firstPage url s = (.done (), u))
    (hi : (Point.ofStage .initial session.firstPage u).capture settings u = (.done r, v))
    (hs : inSession settings session url actions s = (e, t)) (ends : e ≠ .endless) :
    ∃ pts, Visited settings url session actions s pts e t := by
  rcases hx : executeAll settings 1 (State.start session v) actions v with
    ⟨(cause | state) | f | _, w⟩
  · obtain ⟨pts, ha⟩ := acts hx nofun
    cases (inSession_stopped h hi hx).symm.trans hs
    exact ⟨_, .stopped h hi ha⟩
  · obtain ⟨pts, ha⟩ := acts hx nofun
    obtain ⟨last, e', x, hfin, hf⟩ := finished settings state w
    have course := (inSession_finishing h hi hx).symm.trans hs
    cases e' with
    | done result =>
      cases (bind_done hfin).symm.trans course
      exact ⟨_, .done h hi ha hf⟩
    | failed f =>
      cases (bind_failed hfin).symm.trans course
      exact ⟨_, .failed h hi ha hf⟩
    | endless => cases hf
  · obtain ⟨pts, ha⟩ := acts hx nofun
    cases (inSession_lost h hi hx).symm.trans hs
    exact ⟨_, .lost h hi ha⟩
  · cases (inSession_hung h hi hx).symm.trans hs
    exact absurd rfl ends

theorem visited {e : Ending (Except RunCause RunResult)}
    (hs : inSession settings session url actions s = (e, t)) (ends : e ≠ .endless) :
    ∃ pts, Visited settings url session actions s pts e t := by
  rcases h : Browser.goto session.firstPage url s with ⟨⟨⟩ | f | _, u⟩
  · rcases (Point.ofStage .initial session.firstPage u).captured settings with
      ⟨g, v, hi, -⟩ | ⟨v, hi, -, -⟩ | ⟨r, v, hi, -, -, -⟩
    · cases (inSession_begun h hi).symm.trans hs
      exact ⟨_, .untold h hi⟩
    · exact visited_acting h hi hs ends
    · exact visited_acting h hi hs ends
  · cases (inSession_unnavigated h).symm.trans hs
    exact ⟨[], .unnavigated h⟩
  · exact absurd (congrArg Prod.fst h) ((goto_quiet settings _ url).ends s)

/-- Neither the look for a page nor the reading of its markup puts anything down. -/
lemma Finished.ledger {e : Ending RunResult} (h : Finished settings state s pts e t) :
    t.ledger = (pts.filterMap (·.entry settings)).reverse ++ s.ledger := by
  have captured {page : Nat} {u v : Stage Float} {e : Ending (Option Record)}
      (hp : Session.ensureActive (settings .browserTimeout) state.current s = (.done page, u))
      (hc : (Point.ofStage .final page u).capture settings u = (e, v)) :
      v.ledger = ([Point.ofStage .final page u].filterMap (·.entry settings)).reverse ++
        s.ledger := by
    have added : v.ledger = _ ++ u.ledger := Point.capture_ledger settings _ hc
    rw [added, ((ensureActive_quiet settings _).stage hp).ledger, reverse_filterMap_cons]
    rfl
  cases h with
  | pageless hp => exact ((ensureActive_quiet settings _).stage hp).ledger
  | untold hp hc => exact captured hp hc
  | unread hp hc hh => rw [((content_quiet settings _).stage hh).ledger, captured hp hc]
  | done hp hc hh => rw [((content_quiet settings _).stage hh).ledger, captured hp hc]

/-- What a session adds to the ledger are the entries of the points it reaches. -/
lemma Visited.ledger {e : Ending (Except RunCause RunResult)}
    (hv : Visited settings url session actions s pts e t) :
    t.ledger = (pts.filterMap (·.entry settings)).reverse ++ s.ledger := by
  have begun {e : Ending (Option Record)} {u v : Stage Float} {f : Ending Unit}
      (h : Browser.goto session.firstPage url s = (f, u))
      (hi : (Point.ofStage .initial session.firstPage u).capture settings u = (e, v)) :
      v.ledger = ((Point.ofStage .initial session.firstPage u).entry settings).toList ++
        s.ledger := by
    have added : v.ledger = _ ++ u.ledger := Point.capture_ledger settings _ hi
    rw [added, ((goto_quiet settings _ url).stage h).ledger]
  cases hv with
  | unnavigated h => exact ((goto_quiet settings _ url).stage h).ledger
  | untold h hi =>
    rw [begun h hi, reverse_filterMap_cons]
    rfl
  | stopped h hi ha =>
    rw [ha.ledger, begun h hi, reverse_filterMap_cons, List.append_assoc]
  | lost h hi ha =>
    rw [ha.ledger, begun h hi, reverse_filterMap_cons, List.append_assoc]
  | failed h hi ha hf =>
    rw [hf.ledger, ha.ledger, begun h hi, reverse_filterMap_cons, List.filterMap_append,
      List.reverse_append]
    simp only [List.append_assoc]
  | done h hi ha hf =>
    rw [hf.ledger, ha.ledger, begun h hi, reverse_filterMap_cons, List.filterMap_append,
      List.reverse_append]
    simp only [List.append_assoc]

lemma Finished.marks {e : Ending RunResult} (h : Finished settings state s pts e t) :
    (∃ f, e = .failed f) ∧ pts = [] ∨ pts.map (·.mark) = [.final] := by
  cases h with
  | pageless => exact .inl ⟨⟨_, rfl⟩, rfl⟩
  | _ => exact .inr rfl

/-- The points of a session come in one of the orders that a run can have. -/
lemma Visited.marks {e : Ending (Except RunCause RunResult)}
    (hv : Visited settings url session actions s pts e t) :
    Mark.Course actions.length (pts.map (·.mark)) := by
  have halted {u v : Stage Float} {state : State} {more : List Point}
      {e : Ending (Except RunCause State)} (ha : Acts settings 1 state u actions more e v)
      (hx : ∀ next, e ≠ .done (.ok next)) (page : Nat) (w : Stage Float) :
      Mark.Course actions.length ((Point.ofStage .initial page w :: more).map (·.mark)) := by
    obtain ⟨counts, ⟨⟨next, he⟩, -⟩ | ⟨-, hl, count, hm⟩⟩ := ha.marks
    · exact absurd he (hx next)
    · rw [List.map_cons, hm]
      exact .stopped counts hl count
  have completed {u v w x : Stage Float} {state next : State} {more last : List Point}
      {f : Ending RunResult} (ha : Acts settings 1 state u actions more (.done (.ok next)) v)
      (hf : Finished settings next v last f w) (page : Nat) :
      Mark.Course actions.length
        ((Point.ofStage .initial page x :: (more ++ last)).map (·.mark)) := by
    obtain ⟨counts, ⟨-, hl, hm⟩ | ⟨he, -⟩⟩ := ha.marks
    · rw [List.map_cons, List.map_append, hm]
      rcases hf.marks with ⟨-, rfl⟩ | hlast
      · rw [List.map_nil, List.append_nil]
        exact .pageless counts hl
      · rw [hlast]
        exact .finished counts hl
    · exact absurd rfl (he next)
  cases hv with
  | unnavigated => exact .unstarted
  | untold => exact .begun
  | stopped h hi ha => exact halted ha nofun _ _
  | lost h hi ha => exact halted ha nofun _ _
  | failed h hi ha hf => exact completed ha hf _
  | done h hi ha hf => exact completed ha hf _

lemma Visited.unlooped (off : (settings .captureLoopIterations : Bool) = false)
    {e : Ending (Except RunCause RunResult)} (hv : Visited settings url session actions s pts e t) :
    ∀ p ∈ pts, ∀ index attempt, p.mark ≠ .loop index attempt := by
  have last {state : State} {s t : Stage Float} {pts : List Point} {e : Ending RunResult}
      (hf : Finished settings state s pts e t) :
      ∀ p ∈ pts, ∀ index attempt, p.mark ≠ .loop index attempt := by
    cases hf with
    | pageless => simp
    | _ => simp [Point.ofStage]
  cases hv with
  | unnavigated => simp
  | untold => simp [Point.ofStage]
  | stopped h hi ha => exact List.forall_mem_cons.mpr ⟨nofun, ha.unlooped off⟩
  | lost h hi ha => exact List.forall_mem_cons.mpr ⟨nofun, ha.unlooped off⟩
  | failed h hi ha hf =>
    exact List.forall_mem_cons.mpr ⟨nofun, List.forall_mem_append.mpr ⟨ha.unlooped off, last hf⟩⟩
  | done h hi ha hf =>
    exact List.forall_mem_cons.mpr ⟨nofun, List.forall_mem_append.mpr ⟨ha.unlooped off, last hf⟩⟩

/-- Without the attempts of loops, a session that works has a point at its beginning, one
for each action, and one at its end. -/
lemma Visited.plain (off : (settings .captureLoopIterations : Bool) = false) {result : RunResult}
    (hv : Visited settings url session actions s pts (.done (.ok result)) t) :
    pts.length = actions.length + 2 := by
  cases hv with
  | done h hi ha hf =>
    have acted := ha.plain off rfl
    cases hf with
    | done => simp [acted]

/-- A session with a capture that the clock stops fails by the clock. -/
lemma Visited.timeless {e : Ending (Except RunCause RunResult)}
    (hv : Visited settings url session actions s pts e t) {p : Point} (hp : p ∈ pts)
    (hu : p.Untold settings) : ∃ cause, causeOf e = some cause ∧ Timeless cause := by
  cases hv with
  | unnavigated => cases hp
  | untold h hi =>
    rw [List.mem_singleton.mp hp] at hu
    exact ⟨_, rfl, hu.timeless hi⟩
  | stopped h hi ha =>
    rcases List.mem_cons.mp hp with rfl | hp
    · exact absurd hu (Point.told hi)
    · exact ha.timeless hp hu
  | lost h hi ha =>
    rcases List.mem_cons.mp hp with rfl | hp
    · exact absurd hu (Point.told hi)
    · exact ha.timeless hp hu
  | failed h hi ha hf =>
    rcases List.mem_cons.mp hp with rfl | hp
    · exact absurd hu (Point.told hi)
    rcases List.mem_append.mp hp with hp | hp
    · obtain ⟨cause, hx, -⟩ := ha.timeless hp hu
      cases hx
    cases hf with
    | pageless => cases hp
    | untold hf hc =>
      rw [List.mem_singleton.mp hp] at hu
      exact ⟨_, rfl, hu.timeless hc⟩
    | unread hf hc hh =>
      rw [List.mem_singleton.mp hp] at hu
      exact absurd hu (Point.told hc)
  | done h hi ha hf =>
    rcases List.mem_cons.mp hp with rfl | hp
    · exact absurd hu (Point.told hi)
    rcases List.mem_append.mp hp with hp | hp
    · obtain ⟨cause, hx, -⟩ := ha.timeless hp hu
      cases hx
    cases hf with
    | done hf hc hh =>
      rw [List.mem_singleton.mp hp] at hu
      exact absurd hu (Point.told hc)

lemma Visited.full (off : (settings .captureLoopIterations : Bool) = false) {result : RunResult}
    (hv : Visited settings url session actions s pts (.done (.ok result)) t)
    (shot : ∀ p ∈ pts, ¬ p.Missed settings) :
    (pts.filterMap (·.entry settings)).length = actions.length + 2 := by
  rw [← hv.plain off, List.filterMap_length_eq_length]
  intro p hp
  rw [Option.isSome_iff_ne_none, Ne, p.entry_none settings]
  rintro (missed | stopped)
  · exact shot p hp missed
  · obtain ⟨cause, hx, -⟩ := hv.timeless hp stopped
    cases hx

lemma Visited.records {result : RunResult}
    (hv : Visited settings url session actions s pts (.done (.ok result)) t) :
    result.records = t.records := by
  cases hv with
  | done h hi ha hf =>
    cases hf with
    | done => rfl

/-- The ledger that a run ends with, whether it works or fails. -/
def ledgerOf : Except RunFailure RunResult → List Record
  | .ok result => result.records
  | .error failure => failure.records

/-- What the points that a run reaches have to do with its ledger. -/
structure Documented (settings : Settings) (url : Value) (actions : List Action) (s : Stage Float)
    (r : Except RunFailure RunResult) (pts : List Point) : Prop where
  /-- These are the points that the run reaches, on the stages on which it reaches them. -/
  reached : Reached settings url actions (opened s) pts
  /-- They come in the order of a run. -/
  course : Mark.Course actions.length (pts.map (·.mark))
  distinct : (pts.map fun p => (p.mark.step, p.mark.attempt)).Nodup
  plain : (settings .captureLoopIterations : Bool) = false →
    ∀ p ∈ pts, ∀ index attempt, p.mark ≠ .loop index attempt
  /-- The ledger has their records and no others, in the same order. -/
  ledger : ledgerOf r = pts.filterMap (·.entry settings)
  told : ∀ p ∈ pts, ∀ record, p.entry settings = some record → record.step = p.mark.step
  missing : ∀ p ∈ pts, p.entry settings = none ↔ p.Missed settings ∨ p.Untold settings
  /-- The clock stops a capture only in a run that fails by the clock. -/
  untold : ∀ p ∈ pts, p.Untold settings →
    ∃ failure, r = .error failure ∧ Timeless failure.cause
  full : ∀ result, r = .ok result → (settings .captureLoopIterations : Bool) = false →
    (∀ p ∈ pts, ¬ p.Missed settings) → result.records.length = actions.length + 2

/-- A run whose session reaches points is documented by them. -/
lemma Visited.documented {e : Ending (Except RunCause RunResult)} {u : Stage Float}
    {result : Except RunCause RunResult}
    (h : Session.launch settings (opened s) = (.done session, t))
    (clear : t.ledger = []) (hv : Visited settings url session actions t pts e u)
    (he : (∃ f, e = .failed f ∧ result = .error (.ofFailure f)) ∨ e = .done result) :
    Documented settings url actions s (result.mapError (⟨·, u.records⟩)) pts := by
  have added : u.records = pts.filterMap (·.entry settings) := by
    rw [Stage.records, hv.ledger, clear, List.append_nil, List.reverse_reverse]
  have ledger : ledgerOf (result.mapError (⟨·, u.records⟩)) =
      pts.filterMap (·.entry settings) := by
    rw [← added]
    rcases he with ⟨f, rfl, rfl⟩ | rfl
    · rfl
    · cases result with
      | error cause => rfl
      | ok result => exact hv.records
  have labels := hv.marks.nodup.map mark_label_injective
  rw [List.map_map] at labels
  have stopped {cause : RunCause} (hx : causeOf e = some cause) : result = .error cause := by
    rcases he with ⟨f, rfl, rfl⟩ | rfl
    · exact congrArg _ (Option.some.inj hx)
    · cases result <;> cases hx
      rfl
  refine ⟨.launched h hv, hv.marks, labels, hv.unlooped, ledger, fun p _ _ => p.entry_step settings,
    fun p _ => p.entry_none settings, fun p hp hu => ?_, fun x hx off shot => ?_⟩
  · obtain ⟨cause, hx, timeless⟩ := hv.timeless hp hu
    rw [stopped hx]
    exact ⟨_, rfl, timeless⟩
  -- a run that works is a session that works
  rcases he with ⟨f, rfl, rfl⟩ | rfl
  · cases hx
  · cases result with
    | error cause => cases hx
    | ok result =>
      cases hx
      rw [← hv.full off shot, ← ledger]
      rfl

/-- A run of actions that have been read is documented by the points that it reaches. -/
lemma documented {g : Given} {r : Except RunFailure RunResult}
    (hg : g.read = .ok actions) (h : ofGiven settings url g s = (.done r, t)) :
    ∃ pts, Documented settings url actions s r pts := by
  rcases ran settings url s hg with
    ⟨f, u, hl, calls, called, -, hr⟩ |
    ⟨session, u, hl, calls, called, -, result, v, hs, w, -, -, hr⟩ |
    ⟨u, hr, -⟩
  · cases hr.symm.trans h
    have none : t.records = [] := congrArg List.reverse called.ledger
    refine ⟨[], .unlaunched hl, .unstarted, List.nodup_nil, ?_, none, ?_, ?_, ?_, ?_⟩
    · simp
    · simp
    · simp
    · simp
    · rintro result ⟨⟩
  · cases hr.symm.trans h
    rcases settled_cases hs with hx | ⟨f, hx, rfl⟩
    · obtain ⟨pts, hv⟩ := visited hx nofun
      exact ⟨pts, hv.documented hl called.ledger (.inr rfl)⟩
    · obtain ⟨pts, hv⟩ := visited hx nofun
      exact ⟨pts, hv.documented hl called.ledger (.inl ⟨f, rfl, rfl⟩)⟩
  · cases hr.symm.trans h

/-- The ledger of a run is an order-preserving selection of the capture points that the run
reaches. Unless the run fails because the clock has no moment to name a point by, one is left out
exactly if no picture could be had of its page. -/
theorem ledger_selects_points {g : Given} {r : Except RunFailure RunResult}
    (hg : g.read = .ok actions) (h : ofGiven settings url g s = (.done r, t)) :
    ∃ pts, Documented settings url actions s r pts ∧
      ((∀ failure, r = .error failure → ¬ Timeless failure.cause) →
        ∀ p ∈ pts, p.entry settings = none ↔ p.Missed settings) := by
  obtain ⟨pts, documented⟩ := documented hg h
  refine ⟨pts, documented, fun timed p hp => ?_⟩
  have told : ¬ p.Untold settings := fun untold => by
    obtain ⟨failure, failed, timeless⟩ := documented.untold p hp untold
    exact timed failure failed timeless
  rw [documented.missing p hp, or_iff_left told]

/-- Nothing on the page can be clicked, so the second of two actions fails, and not by the clock. -/
theorem ledger_selects_points_click : ∃ r t,
    ofGiven Settings.standard (.text "https://x")
      (.items [.ready .switchToMain, .ready (.click { xpath := "//a" })]) { now := 0 } =
        (.done r, t) ∧
    (ledgerOf r).map (·.step) = ["initial", "action 1", "error on action 2"] ∧
    ∃ pts, Documented Settings.standard (.text "https://x")
      [.switchToMain, .click { xpath := "//a" }] { now := 0 } r pts ∧
      ∀ p ∈ pts, p.entry Settings.standard = none ↔ p.Missed Settings.standard := by
  have steps : (ofGiven Settings.standard (.text "https://x")
      (.items [.ready .switchToMain, .ready (.click { xpath := "//a" })])
      { now := 0 }).1.value?.map (fun r => (ledgerOf r).map (·.step)) =
        some ["initial", "action 1", "error on action 2"] := by decide +kernel
  have coded : (ofGiven Settings.standard (.text "https://x")
      (.items [.ready .switchToMain, .ready (.click { xpath := "//a" })])
      { now := 0 }).1.value?.map (fun r => match r with
        | .error failure => failure.cause.details.getLast?.map (·.2.truthy)
        | .ok _ => none) = some (some true) := by decide +kernel
  rcases h : ofGiven Settings.standard (.text "https://x")
      (.items [.ready .switchToMain, .ready (.click { xpath := "//a" })]) { now := 0 } with
    ⟨r | f | _, t⟩ <;> rw [h] at steps coded
  · obtain ⟨pts, documented, missing⟩ := ledger_selects_points rfl h
    refine ⟨r, t, rfl, Option.some.inj steps, pts, documented, missing ?_⟩
    rintro ⟨cause, records⟩ rfl timeless
    -- a failure of the clock has no code of the engine to be told last
    cases timeless <;> cases coded
  · cases steps
  · cases steps

/-- A clock that leaves the calendar while the second picture is taken. -/
def lapsing : Stage Float :=
  { now := 0, prepared := [{ script := [("screenshot", [[], [.elapse 1e12]])] }] }

/-- The second picture is taken, of a page that is open, but cannot be put down. -/
theorem picture_unrecorded : ∃ failure t,
    ofGiven Settings.standard (.text "https://x") (.items []) lapsing = (.done (.error failure), t) ∧
    failure.cause.code = "RUN_FAILED" ∧
    failure.records.map (·.fileName) = ["debug_initial_2024-05-01T12-00-00-000000.jpg"] ∧
    (t.files.filesIn ["work", "screenshots"]).map (·.1) =
      ["debug_final_2024-05-01T12-00-00-000000.jpg",
        "debug_initial_2024-05-01T12-00-00-000000.jpg"] := by
  have course : (ofGiven Settings.standard (.text "https://x") (.items []) lapsing).1.value?.map
      (fun r => match r with
        | .error failure => some (failure.cause.code, failure.records.map (·.fileName))
        | .ok _ => none) =
      some (some ("RUN_FAILED", ["debug_initial_2024-05-01T12-00-00-000000.jpg"])) := by
    decide +kernel
  have files : ((ofGiven Settings.standard (.text "https://x") (.items []) lapsing).2.files.filesIn
      ["work", "screenshots"]).map (·.1) = ["debug_final_2024-05-01T12-00-00-000000.jpg",
        "debug_initial_2024-05-01T12-00-00-000000.jpg"] := by decide +kernel
  rcases h : ofGiven Settings.standard (.text "https://x") (.items []) lapsing with
    ⟨(failure | result) | f | _, t⟩ <;> rw [h] at course files
  · have told := Option.some.inj (Option.some.inj course)
    exact ⟨failure, t, rfl, congrArg Prod.fst told, congrArg Prod.snd told, files⟩
  · cases course
  · cases course
  · cases course

end Rehearsal.Run
