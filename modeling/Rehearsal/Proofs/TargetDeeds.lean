import Rehearsal.Popup
import Rehearsal.Proofs.BrowserDeeds
import Rehearsal.Screenshot.Ledger
import Rehearsal.Session.Endpoint
import Rehearsal.Target.Clicking
import Rehearsal.Target.Looping

/-!
# What sessions do on pages are deeds

Clicking, filling, waiting, looping, searching for popups and taking screenshots.
Only two plays may fail to end, and both are loops that look again until a deadline.
-/

namespace Rehearsal

open Play

variable {τ : Type} [Clock τ] {R : Stage τ → Stage τ → Prop} [Stage.Admits R]
  {limit : Int} {kept : Record → Prop} {E : Prop}

namespace Session

lemma ensureActive_deeds [Stage.AdmitsLimit limit R] (page : Nat) :
    Within R E (ensureActive limit page : Play τ Nat) := by
  intro s
  unfold ensureActive
  split
  · exact ⟨refl s, fun h => by cases h⟩
  · split
    · exact ⟨Stage.AdmitsLimit.limits s _, fun h => by cases h⟩
    · exact ⟨refl s, fun h => by cases h⟩

lemma settle_deeds [Stage.AdmitsLimit limit R] (page : Nat) (delay : τ) :
    Within R E (settle limit page delay) :=
  .bind (pause_deeds delay) fun _ => ensureActive_deeds page

end Session

namespace Endpoint

lemma ask_deeds (url : String) : Within R E (ask url : Play τ Answer) := by
  intro s
  have noted : R s (s.note (.httpGet url)) := Stage.Admits.note s _ rfl rfl
  unfold ask
  dsimp only
  split
  · exact ⟨noted, fun h => by cases h⟩
  · exact ⟨noted, fun h => by cases h⟩
  · exact ⟨IsTrans.trans _ _ _ noted (Stage.Admits.answers _ _), fun h => by cases h⟩

lemma poll_deeds (url : String) (deadline interval : τ) (turns : Nat) :
    Within R True (poll url deadline interval turns) := by
  induction turns with
  | zero => exact fun s => ⟨refl s, fun _ => trivial⟩
  | succ turns ih =>
    refine .bind (.look _) fun wall => ?_
    split
    · exact .pure false
    · refine .bind (ask_deeds url) fun answer => ?_
      split
      · exact .pure true
      · exact .fail _
      · exact .bind (sleep_deeds interval) fun _ => ih

lemma wait_deeds (endpoint : String) (timeout interval : τ) :
    Within R True (wait endpoint timeout interval) := by
  unfold wait
  split
  · exact .fail _
  · split
    · exact .pure false
    · exact .bind (.look _) fun _ =>
        .bind (Within.change fun s => Stage.Admits.note s _ rfl rfl) fun _ =>
          .bind (.look _) fun turns => poll_deeds _ _ _ turns

end Endpoint

namespace Popup

lemma accept_deeds (plan : Plan τ) [Stage.AdmitsLimit plan.pageTimeout R] (page : Nat) :
    Within R E (accept plan page) :=
  .bind (Browser.stabilize_deeds page _) fun _ =>
    .bind (Within.change fun s => Stage.AdmitsLimit.limits s page) fun _ =>
      .bind (pause_deeds _) fun _ => .pure page

lemma poll_deeds (plan : Plan τ) (w : Wanted) (deadline : τ) (turns : Nat) :
    Within R True (poll plan w deadline turns) := by
  induction turns with
  | zero => exact fun s => ⟨refl s, fun _ => trivial⟩
  | succ turns ih =>
    refine .bind (.examine _) fun found => ?_
    split
    · exact .pure _
    · refine .bind (.look _) fun now => ?_
      split
      · exact .pure none
      · exact .bind (sleep_deeds _) fun _ => ih

lemma fallBack_deeds (plan : Plan τ) [Stage.AdmitsLimit plan.pageTimeout R] (w : Wanted) :
    Within R E (fallBack plan w) := by
  refine .bind (.examine _) fun inside => ?_
  split
  · exact .pure _
  · refine .bind (.look _) fun other => ?_
    split
    · exact accept_deeds plan _
    · split
      · exact .fail _
      · exact Session.ensureActive_deeds _

lemma switch_deeds (plan : Plan τ) [Stage.AdmitsLimit plan.pageTimeout R] (w : Wanted) :
    Within R True (switch plan w) := by
  refine .bind (.examine _) fun found => ?_
  split
  · exact accept_deeds plan _
  · refine .bind (pause_deeds _) fun _ => .bind (.look _) fun now =>
      .bind (.look _) fun turns => .bind (poll_deeds plan w _ turns) fun page => ?_
    split
    · exact accept_deeds plan _
    · exact fallBack_deeds plan w

end Popup

namespace Target

lemma signIn_deeds (a : AccountChooser) (submitDelay : τ) (page : Nat) (c : Click) :
    Within R E (signIn a submitDelay page c) := by
  unfold signIn
  split
  · exact .pure false
  · refine .bind (.examine _) fun login => ?_
    split
    · exact .pure false
    · refine .bind (Browser.count_deeds page _) fun fields => ?_
      split
      · exact .pure false
      · refine .bind (Browser.fillLocated_deeds page _ _ _) fun _ =>
          .bind (pause_deeds _) fun _ => .bind (Browser.count_deeds page _) fun buttons => ?_
        split
        · exact .pure false
        · exact .bind (Browser.clickLocated_deeds page _ _) fun _ => .pure true

lemma directClick_deeds (plan : ClickPlan τ) (page : Nat) (c : Click) :
    Within R E (directClick plan page c) :=
  .bind (Browser.waitForSelector_deeds page _ _) fun _ => Browser.click_deeds page _ _

lemma clickContaining_deeds (timeout : Int) (page : Nat) (text : String) (ls : List Locator) :
    Within R E (clickContaining timeout page text ls : Play τ Bool) := by
  induction ls with
  | nil => exact .pure false
  | cons l rest ih =>
    refine .bind (Browser.textOf_deeds page l) fun content => ?_
    dsimp only
    split
    · exact .bind (Browser.clickLocated_deeds page l _) fun _ => .pure true
    · exact ih

lemma scan_deeds (timeout : Int) (page : Nat) (container text : String) :
    Within R E (scan timeout page container text : Play τ Bool) := by
  unfold scan
  split
  · exact .pure false
  · exact .bind (Browser.all_deeds page _) fun ls => clickContaining_deeds _ page _ ls

lemma clickFirst_deeds (timeout : Int) (page : Nat) (selector : String) :
    Within R E (clickFirst timeout page selector : Play τ Bool) := by
  refine .bind (Browser.count_deeds page _) fun n => ?_
  split
  · exact .pure false
  · exact .bind (Browser.clickLocated_deeds page _ _) fun _ => .pure true

lemma tryFallback_deeds (timeout : Int) (page : Nat) (f : Fallback) :
    Within R E (tryFallback timeout page f : Play τ Bool) := by
  unfold tryFallback
  split
  · exact scan_deeds _ page _ _
  · exact clickFirst_deeds _ page _

/-- Trying fallbacks does no more than each of them. -/
lemma tryFallbacks_within {R : Stage τ → Stage τ → Prop} [Std.Refl R] [IsTrans (Stage τ) R]
    {timeout : Int} {page : Nat} (each : ∀ f, Within R E (tryFallback timeout page f : Play τ Bool))
    (fs : List Fallback) : Within R E (tryFallbacks timeout page fs : Play τ Bool) := by
  induction fs with
  | nil => exact .pure false
  | cons f rest ih =>
    refine .bind (each f).attempt fun r => ?_
    split
    · exact .pure true
    · exact ih

lemma refresh_deeds (plan : ClickPlan τ) (page : Nat) :
    Within R E (refresh plan page) :=
  .bind (sleep_deeds _) fun _ => .bind (Browser.safeReload_deeds page) fun _ => sleep_deeds _

/-- Attempts do no more than the way of the site, from where it is looked up, the direct click and
what is done between two of them. -/
lemma attempts_within {R : Stage τ → Stage τ → Prop} [Std.Refl R] [IsTrans (Stage τ) R]
    {plan : ClickPlan τ} {own : Stage τ → Except Failure (Play τ Bool)} {page : Nat} {c : Click}
    (ho : ∀ s way, own s = .ok way → WithinAt R E way s)
    (direct : Within R E (directClick plan page c)) (again : Within R E (refresh plan page))
    (more : Nat) : Within R E (attempts plan own page c more) := by
  induction more with
  | zero => exact .pure none
  | succ more ih =>
    intro s
    unfold attempts
    rcases hown : own s with f | way
    · rw [bind_failed (examine_error hown)]
      exact ⟨refl s, fun h => by cases h⟩
    · rw [bind_done (examine_ok hown)]
      have tried : WithinAt R E (tryClick plan way page c) s := by
        refine (ho s way hown).bind fun clicked => ?_
        split
        · exact Within.pure ()
        · exact direct
      refine tried.attempt.bind fun r => ?_
      change Within R E _
      split
      · exact .pure none
      · split
        · exact .pure _
        · exact .bind again fun _ => ih

lemma ownClick_deeds {R : Stage Float → Stage Float → Prop} [Stage.Admits R] {sites : List Site}
    {page : Nat} {c : Click} {s : Stage Float} {way : Play Float Bool}
    (h : ownClick sites page c s = .ok way) : Within R E way := by
  obtain rfl | ⟨a, -, rfl⟩ := ownClick_cases h
  · exact .pure false
  · exact signIn_deeds a _ page c

lemma clickWith_within {R : Stage τ → Stage τ → Prop} [Std.Refl R] [IsTrans (Stage τ) R]
    {plan : ClickPlan τ} {own : Stage τ → Except Failure (Play τ Bool)} {page : Nat} {c : Click}
    (ho : ∀ s way, own s = .ok way → WithinAt R E way s)
    (direct : Within R E (directClick plan page c)) (again : Within R E (refresh plan page))
    (each : ∀ f, Within R E (tryFallback plan.clickTimeout page f : Play τ Bool))
    (sites : List Site) : Within R E (clickWith plan own sites page c) := by
  refine .bind (attempts_within ho direct again _) fun r => ?_
  split
  · exact .pure ()
  · refine .bind (.examine _) fun hints => .bind (tryFallbacks_within each _) fun clicked => ?_
    split
    · exact .pure ()
    · exact .fail _

lemma click_deeds {R : Stage Float → Stage Float → Prop} [Stage.Admits R]
    (plan : ClickPlan Float) (sites : List Site) (page : Nat) (c : Click) :
    Within R E (click plan sites page c) :=
  clickWith_within (fun s _ h => ownClick_deeds h s)
    (directClick_deeds plan page c) (refresh_deeds plan page) (tryFallback_deeds _ page) sites

lemma fill_deeds (timeout : Int) (page : Nat) (expression value : String) :
    Within R E (fill timeout page expression value : Play τ Unit) := by
  refine .orElse (Browser.fill_deeds page _ _ _) fun _ =>
    .bind (Browser.count_deeds page _) fun n => ?_
  dsimp only
  split
  · exact .bind (.fail _) fun _ => Browser.fillLocated_deeds page _ _ _
  · exact Browser.fillLocated_deeds page _ _ _

lemma wait_deeds (page : Nat) (seconds : Float) :
    Within R E (wait page seconds : Play τ Unit) := by
  have waiting : Within R E (Play.orElse
      (Browser.waitForTimeout page (seconds * 1000) : Play τ Unit) fun f => do
        if !(← Play.look (·.isClosed page)) then Play.fail f) := by
    refine .orElse (Browser.call_deeds page _) fun f => .bind (.look _) fun closed => ?_
    split
    · exact .fail f
    · exact .pure ()
  refine .bind (.look _) fun closed => ?_
  dsimp only
  split
  · exact .bind (.fail _) fun _ => waiting
  · exact waiting

lemma fieldValue_deeds (page : Nat) (expression : String) :
    Within R E (fieldValue page expression : Play τ _) := by
  refine .bind (Browser.count_deeds page _) fun n => ?_
  dsimp only
  split
  · exact .bind (.fail _) fun _ => Browser.valueOf_deeds page _
  · exact Browser.valueOf_deeds page _

variable (plan : LoopPlan τ) [Stage.AdmitsLimit plan.pageTimeout R]

lemma runSubAction_deeds (page : Nat) (a : SubAction) :
    Within R E (runSubAction plan page a) := by
  cases a with
  | click c => exact .bind (Browser.click_deeds page _ _) fun _ => .pure page
  | type e => exact .bind (Browser.fill_deeds page _ _ _) fun _ => .pure page
  | wait w =>
    exact .bind (Session.ensureActive_deeds page) fun other =>
      .bind (wait_deeds other _) fun _ => .pure other

lemma runSubActions_deeds (page : Nat) (body : List SubAction) :
    Within R E (runSubActions plan page body) := by
  induction body generalizing page with
  | nil => exact .pure _
  | cons a rest ih =>
    refine .bind (runSubAction_deeds plan page a).attempt fun r => ?_
    split
    · exact ih _
    · exact .pure _

lemma finishAttempt_deeds (page : Nat) :
    Within R E (finishAttempt plan page) := by
  refine .bind (Session.ensureActive_deeds page).attempt fun r => ?_
  split
  · exact .pure _
  · exact .bind (sleep_deeds _) fun _ => .pure _

lemma loopAttempt_deeds (l : Loop) (reference : String)
    (page : Nat) : Within R E (loopAttempt plan l reference page) := by
  refine .bind (fieldValue_deeds page _).attempt fun r => ?_
  split
  · exact .pure _
  · split
    · exact .pure _
    · refine .bind (runSubActions_deeds plan page _) fun reach => ?_
      split
      · exact finishAttempt_deeds plan _
      · exact .pure reach

lemma takeTurn_deeds (l : Loop) (reference : String) (page : Nat) :
    Within R E (takeTurn plan l reference page) := by
  refine .bind (loopAttempt_deeds plan l reference page) fun reach => ?_
  split
  · exact .pure _
  · exact .pure _
  · dsimp only
    split
    · exact .bind (.fail _) fun _ => .bind (Session.ensureActive_deeds _) fun _ => .pure _
    · exact .bind (Session.ensureActive_deeds _) fun _ => .pure _

/-- A loop does no more than its hook and its attempts. -/
lemma loopFrom_deeds (l : Loop) (reference : String) (bound : Int)
    {hook : Nat → Int → Play τ Unit}
    (hh : ∀ page n, Within R E (hook page n)) (attempt : Int)
    (page : Nat) (lastError : Option String) (left : Nat) :
    Within R E
      (loopFrom plan l reference bound hook attempt page lastError left) := by
  induction left generalizing attempt page lastError with
  | zero => exact .fail _
  | succ left ih =>
    refine .bind (takeTurn_deeds plan l reference page) fun turn => ?_
    split
    · exact .pure _
    · exact .bind (hh _ _) fun _ => ih _ _ _

end Target

namespace Screenshot.Camera

/-- Apart from the screenshot itself a capture only looks. -/
lemma capture_within (c : Camera) (page : Option Nat) (label : String) (attempt : Option Int)
    (shot : ∀ page m, Within R E (c.shoot page (c.fileFor label attempt m) : Play τ Unit)) :
    Within R E (c.capture page label attempt : Play τ _) := by
  cases page with
  | none => exact .pure none
  | some page =>
    refine .bind (.look _) fun closed => ?_
    split
    · exact .pure none
    · refine .bind .moment fun m => .bind (shot page m).attempt fun r => ?_
      split <;> exact .pure _

/-- A capture of a page puts down a record of its own step. -/
lemma record_within (c : Camera) (page : Option Nat) (caption : Caption) (attempt : Option Int)
    (shot : ∀ page m,
      Within R E (c.shoot page (c.fileFor caption.step attempt m) : Play τ Unit))
    (put : ∀ (s : Stage τ) (r : Record), r.step = caption.step →
      R s { s with ledger := r :: s.ledger }) :
    Within R E (c.record page caption attempt : Play τ _) := by
  refine .bind (capture_within c page _ attempt shot) fun path => ?_
  split
  · exact .pure none
  · exact .bind .moment fun m => .bind (.change fun s => put s _ rfl) fun _ => .pure _

lemma shoot_deeds [Stage.AdmitsFiles R] (c : Camera) (page : Nat) (path : Path) :
    Within R E (c.shoot page path : Play τ Unit) :=
  .bind (fileWork_deeds _) fun _ => Browser.screenshot_deeds page path _

lemma record_deeds (c : Camera) (page : Option Nat) (caption : Caption) (attempt : Option Int)
    (h : ∀ r : Record, r.step = caption.step → kept r) :
    Within (Deeds limit kept) E (c.record page caption attempt : Play τ _) :=
  record_within c page caption attempt (fun page _ => shoot_deeds c page _)
    fun s r step => .single (.record s r (h r step))

end Screenshot.Camera
end Rehearsal
