import Mathlib.Data.List.Induction
import Rehearsal.Proofs.Announcements
import Rehearsal.Proofs.RunOutcome

/-!
# The baseline of a search for popups

A search compares what it sees with what there was when the latest action that may open
pages began, before that action did anything, or else with what there was before the first
action. Actions in between neither replace this baseline nor lose it, so whatever the
context announces from then on counts as new.
-/

namespace Rehearsal.Run

open Play

variable {settings : Settings} {url : Value} {index : Nat} {a : Action} {state next : State}
  {before : List Action} {s t u v : Stage Float} {session : Session}

/-- What an action does leaves the session and the baseline alone. -/
structure State.Moves (state next : State) : Prop where
  session : next.session = state.session
  baseline : next.baseline = state.baseline

lemma goOn_moves {p : Play Float Nat} (h : state.goOn p s = (.done next, t)) :
    state.Moves next := by
  obtain ⟨page, u, -, h⟩ := done_of_bind h
  cases h
  exact ⟨rfl, rfl⟩

lemma carryOut_moves (h : carryOut settings index state a s = (.done next, t)) :
    state.Moves next := by
  rw [carryOut_eq] at h
  cases a with
  | type e | screenshot e | extractText e =>
    obtain ⟨found, u, -, h⟩ := done_of_bind h
    cases h
    exact ⟨rfl, rfl⟩
  | unknown e =>
    cases h
    exact ⟨rfl, rfl⟩
  | _ => exact goOn_moves h

/-- What an action does comes after its preconditions and, for some, a pause. -/
lemma perform_carryOut (h : perform settings index a state s = (.done next, t)) :
    ∃ u, Deeds (settings .browserTimeout) anyRecord s u ∧
      carryOut settings index state a u = (.done next, t) := by
  obtain ⟨⟨⟩, u, checked, h⟩ := done_of_bind h
  obtain rfl : s = u := (checkPreconditions_within (E := True) state).stage checked
  dsimp only at h
  split at h
  · obtain ⟨⟨⟩, v, paused, h⟩ := done_of_bind h
    exact ⟨v, (pause_deeds (E := True) _).stage paused, h⟩
  · exact ⟨s, .refl, h⟩

lemma perform_moves (h : perform settings index a state s = (.done next, t)) :
    state.Moves next := by
  obtain ⟨u, -, carried⟩ := perform_carryOut h
  exact carryOut_moves carried

/-- A completed action leaves the baseline that it found, unless it may open pages: then it
leaves that of the stage on which it began. -/
lemma execute_baseline (h : execute settings index a state s = (.done (.ok next), t)) :
    next.baseline = if a.opensPages then ⟨s.watch.marker, s.pageCount⟩ else state.baseline := by
  obtain ⟨mid, u, r, hp, -, rfl⟩ := execute_ok h
  unfold State.after State.follow
  split
  · rfl
  · exact (perform_moves hp).baseline

/-- The last of some completed actions is completed after the others. -/
lemma executeAll_snoc (h : executeAll settings index state (before ++ [a]) s =
    (.done (.ok next), t)) :
    ∃ mid u, executeAll settings index state before s = (.done (.ok mid), u) ∧
      execute settings (index + before.length) a mid u = (.done (.ok next), t) := by
  rw [executeAll_append] at h
  obtain ⟨r, u, hb, h⟩ := done_of_bind h
  cases r with
  | error cause => cases h
  | ok mid =>
    obtain ⟨r, v, hx, h⟩ := done_of_bind h
    cases r with
    | error cause => cases h
    | ok last =>
      cases h
      exact ⟨mid, u, hb, hx⟩

/-- The stage on which the latest of some completed actions that may open pages began; where
none of them may, the stage before all of them. -/
inductive Origin (settings : Settings) (index : Nat) (state : State) (s : Stage Float)
    (before : List Action) : Stage Float → Prop
  | start (plain : ∀ b ∈ before, b.opensPages = false) : Origin settings index state s before s
  | opener (earlier : List Action) (a : Action) (between : List Action)
      (split : before = earlier ++ a :: between) (opens : a.opensPages = true)
      (plain : ∀ b ∈ between, b.opensPages = false) (mid : State) (u : Stage Float)
      (began : executeAll settings index state earlier s = (.done (.ok mid), u)) :
      Origin settings index state s before u

/-- Later actions that open no pages do not move the origin. -/
lemma Origin.snoc (h : Origin settings index state s before t) (plain : a.opensPages = false) :
    Origin settings index state s (before ++ [a]) t := by
  have extended {between : List Action} (h : ∀ b ∈ between, b.opensPages = false) :
      ∀ b ∈ between ++ [a], b.opensPages = false := by
    intro b hb
    rcases List.mem_append.mp hb with hb | hb
    · exact h b hb
    · rw [List.mem_singleton.mp hb]
      exact plain
  cases h with
  | start h => exact .start (extended h)
  | opener earlier c between split opens h mid u began =>
    refine .opener earlier c (between ++ [a]) ?_ opens (extended h) mid t began
    rw [split, List.append_assoc, List.cons_append]

/-- The state after completed actions has the baseline of their origin, if the state before
them has that of its stage. -/
theorem executeAll_baseline (fresh : state.baseline = ⟨s.watch.marker, s.pageCount⟩)
    (h : executeAll settings index state before s = (.done (.ok next), t)) :
    ∃ origin, Origin settings index state s before origin ∧
      next.baseline = ⟨origin.watch.marker, origin.pageCount⟩ ∧
      Deeds (settings .browserTimeout) anyRecord s origin ∧
      Deeds (settings .browserTimeout) anyRecord origin t := by
  -- The last action either is the opener looked for or leaves that of the others.
  induction before using List.reverseRecOn generalizing next t with
  | nil =>
    cases h
    exact ⟨s, .start (by simp), fresh, .refl, .refl⟩
  | append_singleton before a ih =>
    obtain ⟨mid, u, hb, hx⟩ := executeAll_snoc h
    have baseline := execute_baseline hx
    have ahead := deeds_of_executeAll hb
    have during := deeds_of_execute hx
    cases opens : a.opensPages with
    | true =>
      rw [opens, if_pos rfl] at baseline
      exact ⟨u, .opener before a [] rfl opens (by simp) mid u hb, baseline, ahead, during⟩
    | false =>
      obtain ⟨origin, ho, captured, hs, hu⟩ := ih hb
      rw [opens, if_neg Bool.false_ne_true] at baseline
      exact ⟨origin, ho.snoc opens, baseline.trans captured, hs, hu.trans during⟩

/-- A search for popups is given the numbers of announced and of open pages from the start of
the latest action that may open pages, or from right after the initial capture. What the
watch then says to have been created since is what has been announced since that moment, in
order of creation, however the search goes on. -/
theorem popup_search_baseline (begun : Begun settings url s session u)
    (completed : executeAll settings 1 (State.start session u) before u = (.done (.ok state), v)) :
    ∃ origin, Origin settings 1 (State.start session u) u before origin ∧
      (∀ p : PopupSwitch, checkPreconditions state v = (.done (), v) →
        perform settings (1 + before.length) (.switchToPopup p) state v =
          state.goOn (Popup.switch (.ofSettings settings p.timeout)
            { current := state.current
              baseline := ⟨origin.watch.marker, origin.pageCount⟩
              domains := Popup.domainsOr (popupDomains settings p) settings
              required := p.required }) v) ∧
      ∀ t, Deeds (settings .browserTimeout) anyRecord v t →
        t.watch.createdSince origin.watch.marker = origin.pagesSince t ∧
        t.watch.pagesCreated = origin.watch.pagesCreated ++ origin.pagesSince t := by
  obtain ⟨w, hl, x, hg, r, hi⟩ := begun
  obtain ⟨origin, ho, captured, toOrigin, fromOrigin⟩ := executeAll_baseline rfl completed
  have navigated : Deeds (settings .browserTimeout) anyRecord w x :=
    (Browser.goto_deeds (E := True) _ _).stage hg
  have recorded : Deeds (settings .browserTimeout) anyRecord x u :=
    (Screenshot.Camera.record_deeds (E := True) _ _ _ _ fun _ _ => trivial).stage hi
  refine ⟨origin, ho, fun p open' => ?_, fun t later => ?_⟩
  · rw [← captured]
    exact bind_done open'
  · have before : Deeds (settings .browserTimeout) anyRecord w origin :=
      (navigated.trans recorded).trans toOrigin
    have after : Deeds (settings .browserTimeout) anyRecord origin t := fromOrigin.trans later
    have listening : origin.contextListeners ≠ 0 := by
      rw [Deeds.attended before |>.listeners]
      exact Session.launch_listens hl
    exact ⟨after.createdSince_marker listening, after.attended.created listening⟩

/-- A page that the first navigation of the actions opens is new to a search after a wait. -/
theorem popup_search_baseline_wait : ∃ session u state v,
    Begun Settings.standard (.text "https://x")
      { now := 0, prepared :=
        [{ script := [("goto", [[], [.openPage (.text "https://pay") {}]])] }] } session u ∧
    executeAll Settings.standard 1 (State.start session u)
      [.goto "https://y", .wait { seconds := 1 }] u = (.done (.ok state), v) ∧
    ∃ origin, Origin Settings.standard 1 (State.start session u) u
        [.goto "https://y", .wait { seconds := 1 }] origin ∧
      (∀ p : PopupSwitch, checkPreconditions state v = (.done (), v) →
        perform Settings.standard 3 (.switchToPopup p) state v =
          state.goOn (Popup.switch (.ofSettings Settings.standard p.timeout)
            { current := state.current
              baseline := ⟨origin.watch.marker, origin.pageCount⟩
              domains := Popup.domainsOr (popupDomains Settings.standard p) Settings.standard
              required := p.required }) v) ∧
      ∀ t, Deeds (Settings.standard .browserTimeout) anyRecord v t →
        t.watch.createdSince origin.watch.marker = origin.pagesSince t ∧
        t.watch.pagesCreated = origin.watch.pagesCreated ++ origin.pagesSince t := by
  let course : Play Float (Except RunCause State) := do
    let session ← Session.launch Settings.standard
    Browser.goto session.firstPage (.text "https://x")
    let _ ← fun s => (Point.ofStage .initial session.firstPage s).capture Settings.standard s
    executeAll Settings.standard 1 (← Play.look (State.start session))
      [.goto "https://y", .wait { seconds := 1 }]
  let s : Stage Float := { now := 0, prepared :=
    [{ script := [("goto", [[], [.openPage (.text "https://pay") {}]])] }] }
  have completed : (course s).1.value?.any (·.isOk) = true := by decide +kernel
  rcases h : course s with ⟨(cause | state) | f | _, v⟩ <;> rw [h] at completed
  · cases completed
  · obtain ⟨session, w, hl, h⟩ := done_of_bind h
    obtain ⟨⟨⟩, x, hg, h⟩ := done_of_bind h
    obtain ⟨r, u, hi, h⟩ := done_of_bind h
    have begun : Begun Settings.standard (.text "https://x") s session u := ⟨w, hl, x, hg, r, hi⟩
    exact ⟨session, u, state, v, begun, h, popup_search_baseline begun h⟩
  · cases completed
  · cases completed

end Rehearsal.Run
