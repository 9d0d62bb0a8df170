import Rehearsal.Browser.Locating
import Rehearsal.Browser.Stability
import Rehearsal.Proofs.Deeds

/-!
# Calls on pages and locators are deeds

Every call on a page or a locator comes to an end, and all it does to the stage is
deeds, whether it works or fails. This is said of any relation that admits them; what
writes a file is said of those that admit any change of the files.
-/

namespace Rehearsal

open Play

variable {τ α : Type} [Clock τ] {R : Stage τ → Stage τ → Prop} [Stage.Admits R]
  {limit : Int} {kept : Record → Prop} {E : Prop}

lemma sleep_deeds (span : τ) : Within R E (Play.sleep span) :=
  Within.change fun s => Stage.Admits.sleep s span

lemma pause_deeds (span : τ) : Within R E (Play.pause span) := by
  unfold Play.pause
  split
  · exact sleep_deeds span
  · exact .pure ()

lemma fileWork_within {work : Files → Except FileFault Files}
    (worked : ∀ s files, work s.files = .ok files → R s { s with files }) :
    Within R E (Play.fileWork work : Play τ Unit) := by
  intro s
  unfold Play.fileWork
  split
  · next files h => exact ⟨worked s files h, fun h => by cases h⟩
  · exact ⟨refl s, fun h => by cases h⟩

lemma fileWork_deeds [Stage.AdmitsFiles R] (work : Files → Except FileFault Files) :
    Within R E (Play.fileWork work : Play τ Unit) :=
  fileWork_within fun s files _ => Stage.AdmitsFiles.files s files

namespace Browser

lemma raise_deeds (message : String) :
    Within R E (raise message : Play τ α) := .fail _

lemma timeOut_deeds (message : String) :
    Within R E (timeOut message : Play τ α) := .fail _

lemma runStep_deeds (id : Nat) (step : Step τ) :
    Within R E (runStep id step) := by
  intro s
  have h : R s (s.performAll id step).2 := Stage.Admits.performAll s id step
  unfold runStep
  rcases hp : s.performAll id step with ⟨_ | f, t⟩ <;> rw [hp] at h
  · exact ⟨h, fun h => by cases h⟩
  · exact ⟨h, fun h => by cases h⟩

lemma followScript_deeds (id : Nat) (name : String) :
    Within R E (followScript id name : Play τ Unit) := by
  intro s
  unfold followScript
  split
  · exact ⟨refl s, fun h => by cases h⟩
  · next p _ =>
    have step : Within R E (runStep id (takeStep p.script name).1) :=
      runStep_deeds id _
    obtain ⟨hs, he⟩ := step (s.updatePage id fun q =>
      { q with script := (takeStep p.script name).2 })
    exact ⟨IsTrans.trans _ _ _ (Stage.Admits.script s id _) hs, he⟩

lemma enter_deeds (id : Nat) {entry : Call τ} (h : entry.isService = false)
    (plain : entry.isAnswer = false) (name : String) : Within R E (enter id entry name) := by
  refine .bind (Within.change fun s => Stage.Admits.note s entry h plain) fun _ =>
    .bind (.look _) fun closed => ?_
  cases closed with
  | true => exact .bind (raise_deeds _) fun _ => followScript_deeds id name
  | false => exact followScript_deeds id name

lemma call_deeds (id : Nat) (c : PageCall) :
    Within R E (call id c : Play τ Unit) :=
  enter_deeds id rfl rfl _

lemma changeAt_deeds (id i : Nat) (f : Element (Effect τ) → Element (Effect τ)) :
    Within R E (changeAt id i f) :=
  Within.change fun s => Stage.Admits.element s id i f

lemma clickElement_deeds (id : Nat) (found : Nat × Element (Effect τ)) :
    Within R E (clickElement id found) :=
  .bind (changeAt_deeds id _ _) fun _ => runStep_deeds id _

lemma elements_deeds (id : Nat) : Within R E (elements id : Play τ _) :=
  .look _

lemma visibleElement_deeds (id : Nat) (selector : String) (timeout : Int) :
    Within R E (visibleElement id selector timeout : Play τ _) := by
  refine .bind (elements_deeds id) fun all => ?_
  split
  · exact .pure _
  · exact timeOut_deeds _

lemma goto_deeds (id : Nat) (url : Value) :
    Within R E (goto id url : Play τ Unit) := by
  refine .bind (call_deeds id _) fun _ =>
    .bind (Within.change fun s => Stage.Admits.arrive s id url) fun _ => ?_
  split
  · exact .fail _
  · exact .fail _
  · exact Within.change fun s => Stage.Admits.load s id url

lemma content_deeds (id : Nat) : Within R E (content id : Play τ String) :=
  .bind (call_deeds id _) fun _ => .look _

lemma title_deeds (id : Nat) : Within R E (title id : Play τ String) :=
  .bind (call_deeds id _) fun _ => .pure _

lemma waitForSelector_deeds (id : Nat) (selector : String) (timeout : Int) :
    Within R E (waitForSelector id selector timeout : Play τ Unit) :=
  .bind (call_deeds id _) fun _ => .bind (visibleElement_deeds id _ _) fun _ => .pure _

lemma click_deeds (id : Nat) (selector : String) (timeout : Int) :
    Within R E (click id selector timeout : Play τ Unit) :=
  .bind (call_deeds id _) fun _ =>
    .bind (visibleElement_deeds id _ _) fun found => clickElement_deeds id found

lemma fill_deeds (id : Nat) (selector value : String) (timeout : Int) :
    Within R E (fill id selector value timeout : Play τ Unit) :=
  .bind (call_deeds id _) fun _ =>
    .bind (visibleElement_deeds id _ _) fun _ => changeAt_deeds id _ _

lemma textContent_deeds (id : Nat) (selector : String) (timeout : Int) :
    Within R E (textContent id selector timeout : Play τ _) :=
  .bind (call_deeds id _) fun _ => .bind (visibleElement_deeds id _ _) fun _ => .pure _

lemma saveImage_within {path : Path}
    (written : ∀ s f files, s.files.write path f = .ok files → R s { s with files }) :
    Within R E (saveImage path : Play τ Unit) := by
  intro s
  unfold saveImage
  split
  · exact ⟨refl s, fun h => by cases h⟩
  · exact ⟨refl s, fun h => by cases h⟩
  · split
    · next files h => exact ⟨written s _ files h, fun h => by cases h⟩
    · exact ⟨refl s, fun h => by cases h⟩

lemma saveImage_deeds [Stage.AdmitsFiles R] (path : Path) :
    Within R E (saveImage path : Play τ Unit) :=
  saveImage_within fun s _ files _ => Stage.AdmitsFiles.files s files

lemma screenshot_within {path : Path} (saved : Within R E (saveImage path : Play τ Unit))
    (id : Nat) (c : Capture) : Within R E (screenshot id path c : Play τ Unit) :=
  .bind (call_deeds id _) fun _ => saved

lemma screenshot_deeds [Stage.AdmitsFiles R] (id : Nat) (path : Path) (c : Capture) :
    Within R E (screenshot id path c : Play τ Unit) :=
  screenshot_within (saveImage_deeds path) id c

/-! Locators. -/

lemma callLocator_deeds (id : Nat) (l : Locator) (c : LocatorCall) :
    Within R E (callLocator id l c : Play τ Unit) :=
  enter_deeds id rfl rfl _

lemma located_deeds (id : Nat) (l : Locator) :
    Within R E (located id l : Play τ _) := by
  refine .bind (elements_deeds id) fun all => ?_
  dsimp only
  split <;> exact .pure _

lemma locate_deeds (id : Nat) (l : Locator) (timeout : Option Int) :
    Within R E (locate id l timeout : Play τ _) := by
  refine .bind (located_deeds id l) fun found => ?_
  cases found with
  | nil => exact timeOut_deeds _
  | cons e rest => exact .pure e

lemma count_deeds (id : Nat) (l : Locator) :
    Within R E (count id l : Play τ Nat) :=
  .bind (callLocator_deeds id l _) fun _ => .bind (located_deeds id l) fun _ => .pure _

lemma all_deeds (id : Nat) (selector : String) :
    Within R E (all id selector : Play τ _) :=
  .bind (callLocator_deeds id _ _) fun _ => .bind (located_deeds id _) fun _ => .pure _

lemma clickLocated_deeds (id : Nat) (l : Locator) (timeout : Option Int) :
    Within R E (clickLocated id l timeout : Play τ Unit) :=
  .bind (callLocator_deeds id l _) fun _ =>
    .bind (locate_deeds id l _) fun found => clickElement_deeds id found

lemma fillLocated_deeds (id : Nat) (l : Locator) (value : String) (timeout : Option Int) :
    Within R E (fillLocated id l value timeout : Play τ Unit) :=
  .bind (callLocator_deeds id l _) fun _ =>
    .bind (locate_deeds id l _) fun _ => changeAt_deeds id _ _

lemma textOf_deeds (id : Nat) (l : Locator) :
    Within R E (textOf id l : Play τ _) :=
  .bind (callLocator_deeds id l _) fun _ => .bind (locate_deeds id l _) fun _ => .pure _

lemma valueOf_deeds (id : Nat) (l : Locator) :
    Within R E (valueOf id l : Play τ _) :=
  .bind (callLocator_deeds id l _) fun _ => .bind (locate_deeds id l _) fun _ => .pure _

/-! Waits that do not fail. -/

lemma succeeds_deeds {p : Play τ Unit} (h : Within R E p) :
    Within R E (succeeds p) := by
  refine .bind h.attempt fun r => ?_
  split <;> exact .pure _

lemma waitForState_deeds (id : Nat) (state : String) (timeout : Int) :
    Within R E (waitForState id state timeout : Play τ Bool) :=
  succeeds_deeds (call_deeds id _)

lemma stabilize_deeds (id : Nat) (timeout : Int) :
    Within R E (stabilize id timeout : Play τ Bool) :=
  .bind (waitForState_deeds id _ _) fun _ => .bind (waitForState_deeds id _ _) fun _ => .pure _

lemma safeReload_deeds (id : Nat) :
    Within R E (safeReload id : Play τ Bool) :=
  succeeds_deeds (call_deeds id _)

lemma contentRetrying_deeds (id : Nat) (delay : τ) (more : Nat) :
    Within R E (contentRetrying id delay more) := by
  induction more with
  | zero => exact content_deeds id
  | succ more ih =>
    refine .orElse (content_deeds id) fun f => ?_
    split
    · exact .bind (sleep_deeds delay) fun _ => .bind (waitForState_deeds id _ _) fun _ => ih
    · exact .fail f

lemma safeContent_deeds (id : Nat) (attempts : Int) (delay : τ) :
    Within R E (safeContent id attempts delay) := by
  unfold safeContent
  split
  · exact .pure _
  · exact contentRetrying_deeds id delay _

lemma safeMarkup_deeds {R : Stage Float → Stage Float → Prop} [Stage.Admits R] (id : Nat)
    (attempts : Int) (delayMs : Float) : Within R E (safeMarkup id attempts delayMs) :=
  safeContent_deeds id attempts _

end Browser
end Rehearsal
