import Rehearsal.Proofs.ActionCourse
import Rehearsal.Proofs.Marks

/-!
# The course of a list of actions

The actions of a run are completed one after another, each from the state and the stage
that the one before has left, up to the first that is not. The points at which captures
are made come in the order of `Marks`, and together with the entries they leave they are
all that the ledger has from the actions.
-/

namespace Rehearsal.Run

open Play

/-- The actions from a number on, with the points of their captures, how they end, and
the stage that they leave. -/
inductive Acts (settings : Settings) : Nat → State → Stage Float → List Action → List Point →
    Ending (Except RunCause State) → Stage Float → Prop
  | none (index : Nat) (state : State) (s : Stage Float) :
      Acts settings index state s [] [] (.done (.ok state)) s
  | completed {index : Nat} {a : Action} {state next : State} {s t u v : Stage Float}
      (hp : perform settings index a state s = (.done next, t)) {r : Option Record}
      (hc : (Point.ofAction index a next.current t).capture settings t = (.done r, u))
      {rest : List Action} {pts : List Point} {e : Ending (Except RunCause State)}
      (later : Acts settings (index + 1) (next.after a s) u rest pts e v) :
      Acts settings index state s (a :: rest)
        (loopPoints settings index a state s ++ .ofAction index a next.current t :: pts) e v
  | failed {index : Nat} {a : Action} {state : State} {s t u v : Stage Float} {f : Failure}
      {page : Nat} (hr : Raised settings index a state s f page t) {shown : Option Nat}
      (hl : lookInto settings page t = (.done shown, u)) {r : Option Record}
      (hc : (Point.ofError index a shown f u).capture settings u = (.done r, v))
      (rest : List Action) :
      Acts settings index state s (a :: rest)
        (loopPoints settings index a state s ++ [.ofError index a shown f u])
        (.done (.error (.actionFailed index a.name f.message f.code?))) v
  | lost {index : Nat} {a : Action} {state : State} {s t u v : Stage Float} {f : Failure}
      {page : Nat} (hr : Raised settings index a state s f page t) {shown : Option Nat}
      (hl : lookInto settings page t = (.done shown, u)) {g : ClockFault}
      (hc : (Point.ofError index a shown f u).capture settings u = (.failed (.clock g), v))
      (rest : List Action) :
      Acts settings index state s (a :: rest)
        (loopPoints settings index a state s ++ [.ofError index a shown f u])
        (.failed (.clock g)) v

variable {settings : Settings} {index : Nat} {a : Action} {state : State} {s t : Stage Float}
  {actions : List Action} {pts : List Point} {e : Ending (Except RunCause State)}

/-- Actions that come to an end have a course. -/
theorem acts (h : executeAll settings index state actions s = (e, t)) (ends : e ≠ .endless) :
    ∃ pts, Acts settings index state s actions pts e t := by
  induction actions generalizing index state s with
  | nil =>
    cases h
    exact ⟨[], .none index state _⟩
  | cons a rest ih =>
    rcases execution settings index a state s with ⟨next, w, hp, r, u, hc, hx⟩ |
      ⟨f, page, w, hr, shown, u, hl, r, v, hc, hx⟩ |
      ⟨f, page, w, hr, shown, u, hl, g, v, hc, hx⟩ | ⟨w, -, hx⟩
    · obtain ⟨pts, later⟩ := ih ((bind_done hx).symm.trans h)
      exact ⟨_, .completed hp hc later⟩
    · cases (bind_done hx).symm.trans h
      exact ⟨_, .failed hr hl hc rest⟩
    · cases (bind_failed hx).symm.trans h
      exact ⟨_, .lost hr hl hc rest⟩
    · cases (bind_endless hx).symm.trans h
      exact absurd rfl ends

/-- A course is that of the actions it is said to be of. -/
lemma Acts.run (h : Acts settings index state s actions pts e t) :
    executeAll settings index state actions s = (e, t) := by
  induction h with
  | none => rfl
  | completed hp hc later ih => exact (bind_done (execute_completed hp hc)).trans ih
  | failed hr hl hc rest => exact bind_done (execute_failed hr hl hc)
  | lost hr hl hc rest => exact bind_failed (execute_lost hr hl hc)

/-- After a prefix the rest is carried out as it would be alone, if the prefix is completed. -/
lemma executeAll_append (before rest : List Action) (s : Stage Float) :
    executeAll settings index state (before ++ rest) s =
      (executeAll settings index state before >>= fun
        | .error cause => return .error cause
        | .ok next => executeAll settings (index + before.length) next rest :
        Play Float (Except RunCause State)) s := by
  induction before generalizing index state s with
  | nil => rfl
  | cons a before ih =>
    have shift : index + (a :: before).length = index + 1 + before.length := by
      simp only [List.length_cons]
      omega
    rw [shift, bind_run]
    rcases hx : execute settings index a state s with ⟨(cause | next) | f | _, u⟩
    · have whole : executeAll settings index state (a :: before) s = (.done (.error cause), u) :=
        bind_done hx
      rw [whole]
      exact bind_done hx
    · have whole : executeAll settings index state (a :: before) s =
          executeAll settings (index + 1) next before u := bind_done hx
      rw [whole]
      exact (bind_done hx).trans ((ih u).trans (bind_run _ _ _))
    · have whole : executeAll settings index state (a :: before) s = (.failed f, u) :=
        bind_failed hx
      rw [whole]
      exact bind_failed hx
    · have whole : executeAll settings index state (a :: before) s = (.endless, u) :=
        bind_endless hx
      rw [whole]
      exact bind_endless hx

/-- Until a failure is looked into, its action has left the records of its attempts. -/
lemma Raised.ledger {f : Failure} {page : Nat} (hr : Raised settings index a state s f page t) :
    t.ledger =
      ((loopPoints settings index a state s).filterMap (·.entry settings)).reverse ++ s.ledger := by
  rw [← perform_ledger]
  cases hr with
  | acting _ _ h => rw [h]
  | recording next u hp _ _ hc =>
    rw [hp]
    rcases (Point.ofAction index a next.current u).captured settings with
      ⟨g, v, hv, same⟩ | ⟨v, hv, -⟩ | ⟨r, v, hv, -⟩
    · cases hc.symm.trans hv
      exact same
    · cases hc.symm.trans hv
    · cases hc.symm.trans hv

lemma lookInto_ledger {page : Nat} {shown : Option Nat}
    (h : lookInto settings page s = (.done shown, t)) : t.ledger = s.ledger := by
  have quiet : Within (Deeds (settings .browserTimeout) noRecord) True (lookInto settings page) :=
    lookInto_deeds settings page
  exact (quiet.stage h).ledger

lemma Raised.documented {f : Failure} {page : Nat} {u v : Stage Float}
    (hr : Raised settings index a state s f page t) {shown : Option Nat}
    (hl : lookInto settings page t = (.done shown, u)) {e : Ending (Option Record)}
    (hc : (Point.ofError index a shown f u).capture settings u = (e, v)) :
    v.ledger = ((loopPoints settings index a state s ++ [Point.ofError index a shown f u]).filterMap
      (·.entry settings)).reverse ++ s.ledger := by
  have documented : v.ledger = _ ++ u.ledger := Point.capture_ledger settings _ hc
  rw [documented, lookInto_ledger hl, hr.ledger, List.filterMap_append, List.reverse_append,
    reverse_filterMap_cons, List.append_assoc]
  rfl

/-- The ledger has grown by the entries of the points, in their order. -/
lemma Acts.ledger (h : Acts settings index state s actions pts e t) :
    t.ledger = (pts.filterMap (·.entry settings)).reverse ++ s.ledger := by
  induction h with
  | none => rfl
  | @completed index a state next s t u v hp r hc rest pts e later ih =>
    have carried : t.ledger = _ := (congrArg (·.2.ledger) hp).symm.trans
      (perform_ledger settings index a state s)
    have captured : u.ledger = _ ++ t.ledger := Point.capture_ledger settings _ hc
    rw [ih, captured, carried, List.filterMap_append, List.reverse_append,
      reverse_filterMap_cons]
    simp only [List.append_assoc]
  | failed hr hl hc rest => exact hr.documented hl hc
  | lost hr hl hc rest => exact hr.documented hl hc

/-- The actions before the one with a number are completed, and that one raises a failure,
which is documented unless it is the clock that does not let it. -/
inductive Halts (settings : Settings) (index : Nat) (state : State) (s : Stage Float)
    (actions : List Action) (number : Nat) (a : Action) (f : Failure) : Prop
  | intro (before rest : List Action) (split : actions = before ++ a :: rest)
      (counted : number = index + before.length) (next : State) (t : Stage Float)
      (hx : executeAll settings index state before s = (.done (.ok next), t)) (page : Nat)
      (u : Stage Float) (hr : Raised settings number a next t f page u) (shown : Option Nat)
      (v : Stage Float) (hl : lookInto settings page u = (.done shown, v))
      (told : ¬ (Point.ofError number a shown f v).Untold settings)

lemma Halts.later {next : State} {u : Stage Float} {rest : List Action} {number : Nat}
    {b : Action} {f : Failure}
    (hx : execute settings index a state s = (.done (.ok next), u))
    (h : Halts settings (index + 1) next u rest number b f) :
    Halts settings index state s (a :: rest) number b f := by
  obtain ⟨before, tail, split, counted, next', v, hb, page, w, hr, shown, x, hl, told⟩ := h
  refine ⟨a :: before, tail, by rw [split, List.cons_append], ?_, next', v,
    (bind_done hx).trans hb, page, w, hr, shown, x, hl, told⟩
  simp only [List.length_cons]
  omega

/-- An error comes from the first action that is not completed. -/
lemma Acts.halts {cause : RunCause}
    (h : Acts settings index state s actions pts (.done (.error cause)) t) :
    ∃ (number : Nat) (a : Action) (f : Failure), Halts settings index state s actions number a f ∧
      cause = .actionFailed number a.name f.message f.code? := by
  generalize he : (Ending.done (.error cause) : Ending (Except RunCause State)) = e at h
  induction h with
  | none => cases he
  | @completed index a state next s t u v hp r hc rest pts e later ih =>
    obtain ⟨number, b, f, halts, hcause⟩ := ih he
    exact ⟨number, b, f, halts.later (execute_completed hp hc), hcause⟩
  | @failed index a state s t u v f page hr shown hl r hc rest =>
    cases he
    exact ⟨index, a, f,
      ⟨[], rest, rfl, rfl, state, s, rfl, page, t, hr, shown, u, hl, Point.told hc⟩, rfl⟩
  | lost => cases he

/-- The first action that is not completed decides how the actions end. -/
lemma Halts.ends {number : Nat} {a : Action} {f : Failure}
    (h : Halts settings index state s actions number a f) : ∃ t,
      executeAll settings index state actions s =
        (.done (.error (.actionFailed number a.name f.message f.code?)), t) := by
  obtain ⟨before, rest, rfl, counted, next, t, hx, page, u, hr, shown, v, hl, told⟩ := h
  rw [executeAll_append, bind_done hx, ← counted]
  rcases (Point.ofError number a shown f v).captured settings with
    ⟨g, w, hc, -⟩ | ⟨w, hc, -, -⟩ | ⟨r, w, hc, -, -, -⟩
  · exact absurd ⟨g, congrArg Prod.fst hc⟩ told
  · exact ⟨w, bind_done (execute_failed hr hl hc)⟩
  · exact ⟨w, bind_done (execute_failed hr hl hc)⟩

/-- The number of an error is that of one of the actions. -/
lemma executeAll_number {number : Int} {type error : String} {code : Option String}
    (h : executeAll settings index state actions s =
      (.done (.error (.actionFailed number type error code)), t)) :
    index ≤ number ∧ number < index + actions.length := by
  obtain ⟨pts, course⟩ := acts h nofun
  obtain ⟨k, a, f, ⟨before, rest, split, counted, -⟩, hk⟩ := course.halts
  cases hk
  have length := congrArg List.length split
  simp only [List.length_append, List.length_cons] at length
  omega

/-- Once an action has failed it does not matter what was to come after it. -/
lemma executeAll_prefix {before rest : List Action} {a : Action} {number : Int}
    {type error : String} {code : Option String} (hn : number = index + before.length)
    (h : executeAll settings index state (before ++ a :: rest) s =
      (.done (.error (.actionFailed number type error code)), t)) :
    ∃ next u, executeAll settings index state before s = (.done (.ok next), u) ∧
      execute settings (index + before.length) a next u =
        (.done (.error (.actionFailed number type error code)), t) := by
  rw [executeAll_append] at h
  rcases hx : executeAll settings index state before s with ⟨(cause | next) | f | _, u⟩
  · cases (bind_done hx).symm.trans h
    have := executeAll_number hx
    omega
  · have h := (bind_done hx).symm.trans h
    refine ⟨next, u, rfl, ?_⟩
    rcases hy : execute settings (index + before.length) a next u with ⟨(cause | mid) | f | _, v⟩
    · cases (bind_done hy).symm.trans h
      rfl
    · have := executeAll_number ((bind_done hy).symm.trans h)
      omega
    · cases (bind_failed hy).symm.trans h
    · cases (bind_endless hy).symm.trans h
  · cases (bind_failed hx).symm.trans h
  · cases (bind_endless hx).symm.trans h

/-- The marks of actions that are over: all of them are completed, or the first that is not
is marked as an error, after its attempts. -/
lemma Acts.marks (h : Acts settings index state s actions pts e t) :
    ∃ counts : List Nat,
      (∃ next, e = .done (.ok next)) ∧ counts.length = actions.length ∧
        pts.map (·.mark) = Mark.completed index counts ∨
      (∀ next, e ≠ .done (.ok next)) ∧ counts.length < actions.length ∧
        ∃ count, pts.map (·.mark) = Mark.completed index counts ++
          (Mark.loops (index + counts.length) count ++ [.error (index + counts.length)]) := by
  induction h with
  | none index state s => exact ⟨[], .inl ⟨⟨state, rfl⟩, rfl, rfl⟩⟩
  | @completed index a state next s t u v hp r hc rest pts e later ih =>
    obtain ⟨count, hn⟩ := loopPoints_marks settings index a state s
    obtain ⟨counts, ⟨he, hl, hm⟩ | ⟨he, hl, last, hm⟩⟩ := ih
    · refine ⟨count :: counts, .inl ⟨he, by simp [hl], ?_⟩⟩
      rw [List.map_append, hn, List.map_cons, hm]
      rfl
    · refine ⟨count :: counts, .inr ⟨he, by simp [hl], last, ?_⟩⟩
      have shift : index + 1 + counts.length = index + (count :: counts).length := by
        simp only [List.length_cons]
        omega
      rw [List.map_append, hn, List.map_cons, hm, shift]
      simp only [Mark.completed, List.append_assoc]
      rfl
  | @failed index a state s t u v f page hr shown hl r hc rest =>
    obtain ⟨count, hn⟩ := loopPoints_marks settings index a state s
    refine ⟨[], .inr ⟨nofun, by simp, count, ?_⟩⟩
    rw [List.map_append, hn]
    rfl
  | @lost index a state s t u v f page hr shown hl g hc rest =>
    obtain ⟨count, hn⟩ := loopPoints_marks settings index a state s
    refine ⟨[], .inr ⟨nofun, by simp, count, ?_⟩⟩
    rw [List.map_append, hn]
    rfl

lemma Acts.unlooped (off : (settings .captureLoopIterations : Bool) = false)
    (h : Acts settings index state s actions pts e t) :
    ∀ p ∈ pts, ∀ index attempt, p.mark ≠ .loop index attempt := by
  induction h with
  | none => simp
  | completed hp hc later ih =>
    rw [loopPoints_off settings off]
    exact List.forall_mem_cons.mpr ⟨nofun, ih⟩
  | failed hr hl hc rest =>
    rw [loopPoints_off settings off]
    simp [Point.ofError]
  | lost hr hl hc rest =>
    rw [loopPoints_off settings off]
    simp [Point.ofError]

/-- Without the attempts of loops every completed action has one point. -/
lemma Acts.plain (off : (settings .captureLoopIterations : Bool) = false)
    (h : Acts settings index state s actions pts e t) {next : State}
    (he : e = .done (.ok next)) : pts.length = actions.length := by
  induction h with
  | none => rfl
  | @completed index a state next s t u v hp r hc rest pts e later ih =>
    rw [loopPoints_off settings off, List.nil_append, List.length_cons, List.length_cons, ih he]
  | failed => cases he
  | lost => cases he

/-- The cause of the failure of a run that ends so. -/
def causeOf {α : Type} : Ending (Except RunCause α) → Option RunCause
  | .done (.error cause) => some cause
  | .failed f => some (.ofFailure f)
  | _ => none

/-- A failure of the clock, in an action or outside of one. -/
inductive Timeless : RunCause → Prop
  | run (f : ClockFault) : Timeless (.ofFailure (.clock f))
  | action (index : Int) (type : String) (f : ClockFault) :
      Timeless (.actionFailed index type (Failure.clock f).message none)

lemma Point.Untold.timeless {p : Point} (hu : p.Untold settings) {f : Failure} {u : Stage Float}
    (hc : p.capture settings p.stage = (.failed f, u)) : Timeless (.ofFailure f) := by
  obtain ⟨g, hg⟩ := hu
  cases (congrArg Prod.fst hc).symm.trans hg
  exact .run g

lemma Raised.timeless {f : Failure} {page : Nat} (hr : Raised settings index a state s f page t)
    {p : Point} (hp : p ∈ loopPoints settings index a state s) (hu : p.Untold settings) :
    Timeless (.actionFailed index a.name f.message f.code?) := by
  obtain ⟨g, u, hg⟩ := loopPoints_untold settings hp hu
  cases hr with
  | acting _ _ h =>
    cases hg.symm.trans h
    exact .action _ _ g
  | recording _ _ h => cases hg.symm.trans h

/-- A capture that the clock stops is one of an action that fails, and by the clock. -/
lemma Acts.timeless (h : Acts settings index state s actions pts e t) {p : Point} (hp : p ∈ pts)
    (hu : p.Untold settings) : ∃ cause, causeOf e = some cause ∧ Timeless cause := by
  induction h with
  | none => cases hp
  | completed hx hc later ih =>
    rcases List.mem_append.mp hp with hp | hp
    · obtain ⟨f, u, hf⟩ := loopPoints_untold settings hp hu
      cases hf.symm.trans hx
    · rcases List.mem_cons.mp hp with rfl | hp
      · exact absurd hu (Point.told hc)
      · exact ih hp
  | failed hr hl hc rest =>
    rcases List.mem_append.mp hp with hp | hp
    · exact ⟨_, rfl, hr.timeless hp hu⟩
    · rw [List.mem_singleton.mp hp] at hu
      exact absurd hu (Point.told hc)
  | @lost index a state s t u v f page hr shown hl g hc rest =>
    exact ⟨_, rfl, .run g⟩

end Rehearsal.Run
