import Rehearsal.Proofs.PageSuccession
import Rehearsal.Proofs.PopupBaseline

/-!
# The page that a run is on

An action that does not switch pages leaves the run on the page on which it began, as long as
this page is open. Where it has closed, an action that makes sure of its page goes on with the
newest open one; others do not look.
-/

namespace Rehearsal

open Play

section Replacing

variable {τ : Type}

namespace Stage

variable (s : Stage τ) (id other : Nat) (limit : Int)

lemma isClosed_configured :
    (s.configureTimeouts id limit).isClosed other = s.isClosed other := by
  unfold isClosed configureTimeouts
  rw [page?_updatePage]
  split
  · cases s.page? other <;> rfl
  · rfl

/-- Setting limits opens and closes nothing. -/
lemma openPages_configured : (s.configureTimeouts id limit).openPages = s.openPages := by
  have attached (other : Nat) : ((s.configureTimeouts id limit).page? other).any (·.attached) =
      (s.page? other).any (·.attached) := by
    unfold configureTimeouts
    rw [page?_updatePage]
    split
    · cases s.page? other <;> rfl
    · rfl
  have count : (s.configureTimeouts id limit).pages.length = s.pages.length :=
    List.length_modify ..
  unfold openPages contextPages
  simp only [count, attached, isClosed_configured]

end Stage

namespace Session

variable {limit : Int} {page next : Nat} {s t : Stage τ}

/-- A page that is closed in the end has been replaced by the newest open one. -/
lemma ensureActive_replaced (h : ensureActive limit page s = (.done next, t))
    (closed : t.isClosed page = true) : t.openPages.getLast? = some next := by
  rcases ensureActive_done h with ⟨shown, -, rfl⟩ | ⟨-, last, rfl⟩
  · rw [shown] at closed
    cases closed
  · rw [Stage.openPages_configured]
    exact last

lemma settle_replaced [Clock τ] {delay : τ} (h : settle limit page delay s = (.done next, t))
    (closed : t.isClosed page = true) : t.openPages.getLast? = some next := by
  obtain ⟨⟨⟩, u, -, h⟩ := done_of_bind h
  exact ensureActive_replaced h closed

end Session

end Replacing

namespace Action

/-- Does the action go to another page on purpose? -/
def switches : Action → Bool
  | switchToPopup _ | switchToMain => true
  | _ => false

/-- Does the action make sure of its page when it is over? -/
def reasserts : Action → Bool
  | goto _ | click _ | wait _ => true
  | _ => false

/-- Does the action never look for another page? -/
def stays : Action → Bool
  | type _ | screenshot _ | extractText _ | unknown _ => true
  | _ => false

end Action

namespace Run

variable {settings : Settings} {index : Nat} {a : Action} {before actions : List Action}
  {state last : State} {s t u : Stage Float}

/-- The page that an action which does not switch pages goes on with, as it stands when the
action is over. -/
structure Continued (a : Action) (page : Nat) (t : Stage Float) (next : Nat) : Prop where
  kept : t.isClosed page = false → next = page
  replaced : a.reasserts = true → t.isClosed page = true → t.openPages.getLast? = some next
  stayed : a.stays = true → next = page

lemma goOn_keeps {limit : Int} {p : Play Float Nat} (h : Keeps limit state.current id p) :
    Keeps limit state.current State.current (state.goOn p) :=
  h.bind fun _ => .pure rfl

lemma goOn_done {p : Play Float Nat} (h : state.goOn p s = (.done last, t)) :
    p s = (.done last.current, t) := by
  obtain ⟨page, u, hp, h⟩ := done_of_bind h
  cases h
  exact hp

lemma carryOut_keeps (plain : a.switches = false) : Keeps (settings .browserTimeout) state.current
    State.current (carryOut settings index state a) := by
  rw [carryOut_eq]
  cases a with
  | goto url =>
    exact goOn_keeps (.after (Browser.goto_deeds _ _) fun _ => Session.settle_keeps _)
  | click c =>
    exact goOn_keeps (.after (Target.click_deeds _ _ _ c) fun _ => Session.settle_keeps _)
  | type e => exact .after (Target.fill_deeds _ _ _ _) fun _ => .pure rfl
  | wait w =>
    exact goOn_keeps (.after (Target.wait_deeds _ _) fun _ => Session.ensureActive_keeps)
  | switchToPopup p => cases plain
  | switchToMain => cases plain
  | loopUntil l =>
    refine goOn_keeps (.after today_within fun reference => ?_)
    exact Target.loopFrom_keeps (.ofSettings settings) l reference _
      (fun page n => loopHook_deeds settings index l page n fun _ _ _ => trivial) 1 none _
  | screenshot path => exact .after (saveScreenshot_deeds settings _ path) fun _ => .pure rfl
  | extractText x => exact .after (Browser.textContent_deeds _ _ _) fun _ => .pure rfl
  | unknown u => exact .pure rfl

lemma perform_keeps (plain : a.switches = false) : Keeps (settings .browserTimeout) state.current
    State.current (perform settings index a state) := by
  have done : Keeps (settings .browserTimeout) state.current State.current
      (carryOut settings index state a) := carryOut_keeps plain
  refine .after (checkPreconditions_within state) fun _ => ?_
  dsimp only
  split
  · exact .after (pause_deeds _) fun _ => done
  · exact done

/-- An action is performed on a page that is open. -/
lemma perform_shown (h : perform settings index a state s = (.done last, t)) :
    s.isClosed state.current = false := by
  obtain ⟨⟨⟩, u, checked, -⟩ := done_of_bind h
  refine Bool.eq_false_iff.mpr fun closed => ?_
  have refused : checkPreconditions state s =
      (.failed (.engine (.preconditionFailed "Current page is closed" [])), s) := by
    unfold checkPreconditions
    rw [bind_done (look_run _ s), closed]
    rfl
  cases refused.symm.trans checked

lemma carryOut_replaced (again : a.reasserts = true)
    (h : carryOut settings index state a s = (.done last, t))
    (closed : t.isClosed state.current = true) : t.openPages.getLast? = some last.current := by
  rw [carryOut_eq] at h
  cases a with
  | goto url | click c =>
    obtain ⟨⟨⟩, u, -, h⟩ := done_of_bind (goOn_done h)
    exact Session.settle_replaced h closed
  | wait w =>
    obtain ⟨⟨⟩, u, -, h⟩ := done_of_bind (goOn_done h)
    exact Session.ensureActive_replaced h closed
  | _ => cases again

lemma carryOut_stayed (still : a.stays = true)
    (h : carryOut settings index state a s = (.done last, t)) : last.current = state.current := by
  rw [carryOut_eq] at h
  cases a with
  | type e | screenshot path | extractText x =>
    obtain ⟨found, u, -, h⟩ := done_of_bind h
    cases h
    rfl
  | unknown u =>
    cases h
    rfl
  | _ => cases still

lemma perform_continued (plain : a.switches = false)
    (h : perform settings index a state s = (.done last, t)) :
    Continued a state.current t last.current := by
  have known : s.Known state.current := Stage.known_of_open (perform_shown h)
  obtain ⟨u, -, carried⟩ := perform_carryOut h
  have successor := (perform_keeps plain).successor known h
  constructor
  · exact successor.eq_of_open
  · exact fun again closed => carryOut_replaced again carried closed
  · exact fun still => carryOut_stayed still carried

lemma after_current (next : State) (a : Action) (s : Stage Float) :
    (next.after a s).current = next.current := by
  unfold State.after State.follow
  split <;> rfl

lemma execute_successor (plain : a.switches = false)
    (h : execute settings index a state s = (.done (.ok last), u)) :
    u.Successor (settings .browserTimeout) state.current last.current := by
  obtain ⟨next, t, r, hp, hc, rfl⟩ := execute_ok h
  have captured := Point.deeds_of_capture hc
  have known : s.Known state.current := Stage.known_of_open (perform_shown hp)
  have successor := (perform_keeps plain).successor known hp
  rw [after_current]
  exact successor.trans captured.ages .same

/-- Completed actions that do not switch pages leave a page only where it has closed. -/
lemma executeAll_successor (plain : ∀ b ∈ actions, b.switches = false)
    (h : executeAll settings index state actions s = (.done (.ok last), u)) :
    u.Successor (settings .browserTimeout) state.current last.current := by
  induction actions generalizing index state s with
  | nil =>
    cases h
    exact .same
  | cons a rest ih =>
    obtain ⟨plainly, later⟩ := List.forall_mem_cons.mp plain
    obtain ⟨r, t, hx, h⟩ := done_of_bind h
    cases r with
    | error cause => cases h
    | ok next =>
      have first := execute_successor plainly hx
      have aged := (deeds_of_executeAll h).ages
      exact first.trans aged (ih later h)

/-- The page that a run is on never changes silently. However an action that does not switch
pages goes, if its page is open when it is over, this is still the page that the run is on.
Otherwise the actions that make sure of their page go on with the newest open one, and those
that never look for another page stay where they are. So as long as no action switches pages, a
page that is open in the end has not been left. -/
theorem current_page_kept (plain : a.switches = false)
    (h : executeAll settings index state (before ++ [a]) s = (.done (.ok last), u)) :
    (∃ mid r next t, executeAll settings index state before s = (.done (.ok mid), r) ∧
      perform settings (index + before.length) a mid r = (.done next, t) ∧
      last.current = next.current ∧ Continued a mid.current t next.current) ∧
    ((∀ b ∈ before, b.switches = false) → u.isClosed state.current = false →
      last.current = state.current) := by
  constructor
  · obtain ⟨mid, r, hb, hx⟩ := executeAll_snoc h
    obtain ⟨next, t, -, hp, -, rfl⟩ := execute_ok hx
    exact ⟨mid, r, next, t, hb, hp, after_current next a r, perform_continued plain hp⟩
  · intro earlier shown
    have never : ∀ b ∈ before ++ [a], b.switches = false :=
      List.forall_mem_append.mpr ⟨earlier, List.forall_mem_singleton.mpr plain⟩
    exact (executeAll_successor never h).eq_of_open shown

/-- A page that closes itself during a wait is replaced by the other one that there is. -/
theorem current_page_kept_wait : ∃ session u last v,
    Session.launch Settings.standard
      { now := 0, prepared := [{ script := [("wait_for_timeout", [[.close none]])] }, {}] } =
        (.done session, u) ∧
    executeAll Settings.standard 1 (State.start session u)
      ([.goto "https://y"] ++ [.wait { seconds := 1 }]) u = (.done (.ok last), v) ∧
    last.current = 1 ∧ Action.switches (.wait { seconds := 1 }) = false ∧
    ∃ mid r next t, executeAll Settings.standard 1 (State.start session u) [.goto "https://y"] u =
        (.done (.ok mid), r) ∧
      perform Settings.standard 2 (.wait { seconds := 1 }) mid r = (.done next, t) ∧
      last.current = next.current ∧
      Continued (.wait { seconds := 1 }) mid.current t next.current := by
  let course : Play Float (Except RunCause State) := do
    let session ← Session.launch Settings.standard
    executeAll Settings.standard 1 (← Play.look (State.start session))
      ([.goto "https://y"] ++ [.wait { seconds := 1 }])
  let s : Stage Float :=
    { now := 0, prepared := [{ script := [("wait_for_timeout", [[.close none]])] }, {}] }
  have completed : (course s).1.value?.map (Except.toOption · |>.map (·.current)) =
      some (some 1) := by decide +kernel
  rcases h : course s with ⟨(cause | last) | f | _, v⟩ <;> rw [h] at completed
  · cases completed
  · obtain ⟨session, u, hl, h⟩ := done_of_bind h
    have moved : last.current = 1 := Option.some.inj (Option.some.inj completed)
    exact ⟨session, u, last, v, hl, h, moved, rfl, (current_page_kept rfl h).1⟩
  · cases completed
  · cases completed

end Run
end Rehearsal
