import Rehearsal.Proofs.TargetDeeds
import Rehearsal.Run

/-!
# The actions of a run are deeds

Between the launch of a session and its close all that a run does is deeds. Only a
search for a popup may fail to end, and only a loop that documents its attempts puts
records down before the record of its action.
-/

namespace Rehearsal.Run

open Play

variable {R : Stage Float → Stage Float → Prop} [Stage.Admits R] {kept : Record → Prop} {E : Prop}
  (settings : Settings)

/-- Every record. -/
abbrev anyRecord (_ : Record) : Prop := True

instance [Stage.AdmitsLimit (settings .browserTimeout) R] (timeout : Option Float) :
    Stage.AdmitsLimit (Popup.Plan.ofSettings settings timeout).pageTimeout R :=
  inferInstanceAs (Stage.AdmitsLimit (settings .browserTimeout) R)

instance [Stage.AdmitsLimit (settings .browserTimeout) R] :
    Stage.AdmitsLimit (Target.LoopPlan.ofSettings settings).pageTimeout R :=
  inferInstanceAs (Stage.AdmitsLimit (settings .browserTimeout) R)

lemma goOn_within {R : Stage Float → Stage Float → Prop} [Std.Refl R]
    [IsTrans (Stage Float) R] {p : Play Float Nat} (state : State) (h : Within R E p) :
    Within R E (state.goOn p) :=
  .bind h fun _ => .pure _

lemma today_within {R : Stage Float → Stage Float → Prop} [Std.Refl R]
    [IsTrans (Stage Float) R] : Within R E today :=
  .bind .moment fun _ => .pure _

lemma checkPreconditions_within {R : Stage Float → Stage Float → Prop} [Std.Refl R]
    [IsTrans (Stage Float) R] (state : State) : Within R E (checkPreconditions state) := by
  have counted : Within R E (do
      if (← Play.look (·.pageCount)) = 0 then
        Play.fail (.engine (.preconditionFailed "No open page in the browser context" []))) := by
    refine .bind (.look _) fun n => ?_
    split
    · exact .fail _
    · exact .pure ()
  refine .bind (.look _) fun closed => ?_
  dsimp only
  split
  · exact .bind (.fail _) fun _ => counted
  · exact counted

/-! A single action. Its own screenshot and the records of its loop are taken for granted. -/

lemma loopHook_within (index : Nat) (l : Loop) (page : Nat) (attempt : Int)
    (recorded : settings .captureLoopIterations = true → ∀ caption : Screenshot.Caption,
      caption.step = "action " ++ toString index ++ " loop" → Within R E
        ((Screenshot.Camera.ofSettings settings).record (some page) caption (some attempt))) :
    Within R E (loopHook settings index l page attempt) := by
  unfold loopHook
  split
  · next on => exact .bind (recorded on _ rfl) fun _ => .pure ()
  · exact .pure ()

lemma switchToMain_within (state : State) : Within R E (switchToMain state) := by
  have back : Within R E (do
      Browser.bringToFront state.session.firstPage
      return state.session.firstPage : Play Float Nat) :=
    .bind (Browser.call_deeds _ _) fun _ => .pure _
  refine goOn_within state (.bind (.look _) fun closed => ?_)
  dsimp only
  split
  · exact .bind (.fail _) fun _ => back
  · exact back

variable [Stage.AdmitsLimit (settings .browserTimeout) R]

lemma carryOut_within (index : Nat) (state : State) (a : Action)
    (hE : ∀ p, a = .switchToPopup p → E)
    (hooked : ∀ l, a = .loopUntil l → ∀ page n, Within R E (loopHook settings index l page n))
    (saved : ∀ page path, Within R E (saveScreenshot settings page path)) :
    Within R E (carryOut settings index state a) := by
  rw [carryOut_eq]
  cases a with
  | goto url =>
    exact goOn_within state (.bind (Browser.goto_deeds _ _) fun _ => Session.settle_deeds _ _)
  | click c =>
    exact goOn_within state (.bind (Target.click_deeds _ _ _ c) fun _ => Session.settle_deeds _ _)
  | type e => exact .bind (Target.fill_deeds _ _ _ _) fun _ => .pure state
  | wait w =>
    exact goOn_within state (.bind (Target.wait_deeds _ _) fun _ => Session.ensureActive_deeds _)
  | switchToPopup p =>
    exact goOn_within state
      ((Popup.switch_deeds (.ofSettings settings p.timeout) _).mono (fun _ _ h => h)
        fun _ => hE p rfl)
  | switchToMain => exact switchToMain_within state
  | loopUntil l =>
    refine goOn_within state (.bind today_within fun reference => ?_)
    exact Target.loopFrom_deeds (.ofSettings settings) l reference _ (hooked l rfl) 1 _ none _
  | screenshot path => exact .bind (saved _ path) fun _ => .pure state
  | extractText x => exact .bind (Browser.textContent_deeds _ _ _) fun _ => .pure _
  | unknown u => exact .pure state

lemma perform_within (index : Nat) (state : State) (a : Action)
    (hE : ∀ p, a = .switchToPopup p → E)
    (hooked : ∀ l, a = .loopUntil l → ∀ page n, Within R E (loopHook settings index l page n))
    (saved : ∀ page path, Within R E (saveScreenshot settings page path)) :
    Within R E (perform settings index a state) := by
  have done := carryOut_within settings index state a hE hooked saved
  refine .bind (checkPreconditions_within state) fun _ => ?_
  dsimp only
  split
  · exact .bind (pause_deeds _) fun _ => done
  · exact done

lemma lookInto_deeds (page : Nat) : Within R E (lookInto settings page) := by
  have shown : Within R E (do
      let shown ← Play.attempt (Session.ensureActive (settings .browserTimeout) page)
      return shown.toOption : Play Float (Option Nat)) :=
    .bind (Session.ensureActive_deeds page).attempt fun _ => .pure _
  refine .bind (.look _) fun closed => ?_
  dsimp only
  split
  · exact .bind (Browser.title_deeds page).attempt fun _ => shown
  · exact shown

/-! The whole run, for a relation that screenshots and their records stay within. -/

section Photographed

variable {settings}
  (recorded : ∀ page caption attempt,
    Within R E ((Screenshot.Camera.ofSettings settings).record page caption attempt))
  (saved : ∀ page path, Within R E (saveScreenshot settings page path))
include recorded

omit [Stage.AdmitsLimit (settings .browserTimeout) R] in
lemma recordStage_within (page : Nat) (step : String) :
    Within R E (recordStage settings page step) :=
  .bind (recorded _ _ _) fun _ => .pure ()

omit [Stage.AdmitsLimit (settings .browserTimeout) R] in
lemma recordAction_within (page : Option Nat) (step : String) (a : Action)
    (error : Option String) : Within R E (recordAction settings page step a error) :=
  .bind (recorded _ _ _) fun _ => .pure ()

lemma diagnose_within (index : Nat) (a : Action) (page : Nat) (f : Failure) :
    Within R E (diagnose settings index a page f) :=
  .bind (lookInto_deeds settings page) fun _ =>
    .bind (recordAction_within recorded _ _ a _) fun _ => .pure _

lemma finish_within (state : State) : Within R E (finish settings state) :=
  .bind (Session.ensureActive_deeds _) fun page =>
    .bind (recordStage_within recorded page "final") fun _ =>
      .bind (Browser.safeMarkup_deeds page _ _) fun _ => .look _

include saved

lemma execute_within (index : Nat) (a : Action) (state : State)
    (hE : ∀ p, a = .switchToPopup p → E) : Within R E (execute settings index a state) := by
  refine .bind (.look _) fun baseline => .bind (perform_within settings index state a hE
    (fun l _ page n => loopHook_within settings index l page n fun _ _ _ => recorded _ _ _)
    saved).attempt fun performed => ?_
  split
  · exact .bind (diagnose_within recorded index a _ _) fun _ => .pure _
  · refine .bind (recordAction_within recorded _ _ a none).attempt fun photographed => ?_
    split
    · exact .bind (diagnose_within recorded index a _ _) fun _ => .pure _
    · exact .pure _

lemma executeAll_within (index : Nat) (state : State) (actions : List Action)
    (hE : ∀ p, .switchToPopup p ∈ actions → E) :
    Within R E (executeAll settings index state actions) := by
  induction actions generalizing index state with
  | nil => exact .pure _
  | cons a rest ih =>
    refine .bind (execute_within recorded saved index a state fun p hp => hE p (by simp [hp]))
      fun r => ?_
    split
    · exact .pure _
    · exact ih _ _ fun p hp => hE p (List.mem_cons_of_mem a hp)

/-- A run in a session ends unless a search for a popup does not. -/
lemma inSession_within (session : Session) (url : Value) (actions : List Action)
    (hE : ∀ p, .switchToPopup p ∈ actions → E) :
    Within R E (inSession settings session url actions) := by
  refine .bind (Browser.goto_deeds _ url).attempt fun r => ?_
  split
  · exact .pure _
  · refine .bind (recordStage_within recorded _ "initial") fun _ =>
      .bind (.look _) fun baseline =>
        .bind (executeAll_within recorded saved 1 _ actions hE) fun r => ?_
    split
    · exact .pure _
    · exact .bind (finish_within recorded _) fun _ => .pure _

end Photographed

/-! Deeds are such a relation. -/

omit [Stage.AdmitsLimit (settings .browserTimeout) R] in
lemma saveScreenshot_deeds [Stage.AdmitsFiles R] (page : Nat) (path : String) :
    Within R E (saveScreenshot settings page path) :=
  .bind (fileWork_deeds _) fun _ => Browser.screenshot_deeds page _ _

lemma recorded_deeds {limit : Int} (page : Option Nat) (caption : Screenshot.Caption)
    (attempt : Option Int) : Within (Deeds limit anyRecord) E
      ((Screenshot.Camera.ofSettings settings).record page caption attempt : Play Float _) :=
  Screenshot.Camera.record_deeds _ page caption attempt fun _ _ => trivial

lemma loopHook_deeds {limit : Int} (index : Nat) (l : Loop) (page : Nat) (attempt : Int)
    (h : settings .captureLoopIterations = true → ∀ r : Record,
      r.step = "action " ++ toString index ++ " loop" → kept r) :
    Within (Deeds limit kept) E (loopHook settings index l page attempt) :=
  loopHook_within settings index l page attempt fun on _ step =>
    Screenshot.Camera.record_deeds _ _ _ _ fun r hr => h on r (hr.trans step)

lemma carryOut_deeds (index : Nat) (state : State) (a : Action)
    (hE : ∀ p, a = .switchToPopup p → E)
    (hk : ∀ l, a = .loopUntil l → settings .captureLoopIterations = true → ∀ r : Record,
      r.step = "action " ++ toString index ++ " loop" → kept r) :
    Within (Deeds (settings .browserTimeout) kept) E (carryOut settings index state a) :=
  carryOut_within settings index state a hE
    (fun l hl page n => loopHook_deeds settings index l page n (hk l hl))
    (saveScreenshot_deeds settings)

lemma perform_deeds (index : Nat) (state : State) (a : Action)
    (hE : ∀ p, a = .switchToPopup p → E)
    (hk : ∀ l, a = .loopUntil l → settings .captureLoopIterations = true → ∀ r : Record,
      r.step = "action " ++ toString index ++ " loop" → kept r) :
    Within (Deeds (settings .browserTimeout) kept) E (perform settings index a state) :=
  perform_within settings index state a hE
    (fun l hl page n => loopHook_deeds settings index l page n (hk l hl))
    (saveScreenshot_deeds settings)

lemma recordAction_deeds {limit : Int} (page : Option Nat) (step : String) (a : Action)
    (error : Option String) (h : ∀ r : Record, r.step = step → kept r) :
    Within (Deeds limit kept) E (recordAction settings page step a error) :=
  .bind (Screenshot.Camera.record_deeds _ page _ none h) fun _ => .pure ()

lemma recordStage_deeds {limit : Int} (page : Nat) (step : String)
    (h : ∀ r : Record, r.step = step → kept r) :
    Within (Deeds limit kept) E (recordStage settings page step) :=
  .bind (Screenshot.Camera.record_deeds _ _ _ none h) fun _ => .pure ()

lemma diagnose_deeds (index : Nat) (a : Action) (page : Nat) (f : Failure) :
    Within (Deeds (settings .browserTimeout) anyRecord) E (diagnose settings index a page f) :=
  diagnose_within (recorded_deeds settings) index a page f

lemma finish_deeds (state : State) :
    Within (Deeds (settings .browserTimeout) anyRecord) E (finish settings state) :=
  finish_within (recorded_deeds settings) state

/-- Between the launch of a session and its close a run does nothing but deeds. -/
lemma inSession_deeds (session : Session) (url : Value) (actions : List Action)
    (hE : ∀ p, .switchToPopup p ∈ actions → E) :
    Within (Deeds (settings .browserTimeout) anyRecord) E
      (inSession settings session url actions) :=
  inSession_within (recorded_deeds settings) (saveScreenshot_deeds settings) session url actions hE

section Stages

variable {settings} {index : Nat} {a : Action} {actions : List Action} {state : State}
  {s t : Stage Float}

lemma deeds_of_perform {e : Ending State} (h : perform settings index a state s = (e, t)) :
    Deeds (settings .browserTimeout) anyRecord s t :=
  (perform_deeds (E := True) settings index state a (fun _ _ => trivial)
    fun _ _ _ _ _ => trivial).stage h

lemma deeds_of_execute {e : Ending (Except RunCause State)}
    (h : execute settings index a state s = (e, t)) :
    Deeds (settings .browserTimeout) anyRecord s t :=
  (execute_within (E := True) (recorded_deeds settings) (saveScreenshot_deeds settings) index a
    state fun _ _ => trivial).stage h

lemma deeds_of_executeAll {e : Ending (Except RunCause State)}
    (h : executeAll settings index state actions s = (e, t)) :
    Deeds (settings .browserTimeout) anyRecord s t :=
  (executeAll_within (E := True) (recorded_deeds settings) (saveScreenshot_deeds settings) index
    state actions fun _ _ => trivial).stage h

end Stages

end Rehearsal.Run
