import Rehearsal.Action
import Rehearsal.Session
import Rehearsal.Settings
import Rehearsal.Target.Field
/-!
Repeating actions until a field's value reaches a reference. Every attempt reads the field first and
ends the loop if the value is there; otherwise it runs the actions. An attempt that fails is put
down and the next one is made, as long as some page is open.
-/
namespace Rehearsal.Target

/-- The times and limits of a loop. -/
structure LoopPlan (τ : Type) where
  actionTimeout : Int
  settleDelay : τ
  /-- The limit for pages that replace closed ones. -/
  pageTimeout : Int

def LoopPlan.ofSettings (settings : Settings) : LoopPlan Float where
  actionTimeout := settings .loopActionTimeout
  settleDelay := settings .loopSettleDelay
  pageTimeout := settings .browserTimeout

/-- Zero attempts count as not given. -/
def attemptBound (l : Loop) (settings : Settings) : Int :=
  match l.maxAttempts with
  | some n => if n = 0 then settings .loopMaxAttempts else n
  | none => settings .loopMaxAttempts

/-- Has the value come to the reference, in the order of text? -/
def reached (value : Option String) (reference : String) : Bool :=
  match value with
  | none => false
  | some v => v ≠ "" && reference ≤ v

variable {τ : Type} [Clock τ]

/-- Runs an action on a page and gives the page to go on with. -/
def runSubAction (plan : LoopPlan τ) (page : Nat) : SubAction → Play τ Nat
  | .click c => do
    Browser.click page (Selector.ofExpression c.xpath) plan.actionTimeout
    return page
  | .type e => do
    Browser.fill page (Selector.ofExpression e.xpath) e.value plan.actionTimeout
    return page
  | .wait w => do
    let page ← Session.ensureActive plan.pageTimeout page
    wait page w.seconds
    return page

/-- How far an attempt came: the page it was on, and how it ended there. -/
structure Reach where
  page : Nat
  outcome : Except Failure Bool

/-- Runs actions in order, keeping the page reached when one fails. -/
def runSubActions (plan : LoopPlan τ) (page : Nat) : List SubAction → Play τ Reach
  | [] => return ⟨page, .ok false⟩
  | a :: rest => do
    match ← Play.attempt (runSubAction plan page a) with
    | .ok page => runSubActions plan page rest
    | .error f => return ⟨page, .error f⟩

/-- What comes after the actions: a page that is open, and a pause. -/
def finishAttempt (plan : LoopPlan τ) (page : Nat) : Play τ Reach := do
  match ← Play.attempt (Session.ensureActive plan.pageTimeout page) with
  | .error f => return ⟨page, .error f⟩
  | .ok page =>
    Play.sleep plan.settleDelay
    return ⟨page, .ok false⟩

/-- One attempt. Its outcome is whether the reference has been reached. -/
def loopAttempt (plan : LoopPlan τ) (l : Loop) (reference : String) (page : Nat) :
    Play τ Reach := do
  match ← Play.attempt (fieldValue page l.xpath) with
  | .error f => return ⟨page, .error f⟩
  | .ok value =>
    if reached value reference then return ⟨page, .ok true⟩
    let reach ← runSubActions plan page l.body
    match reach.outcome with
    | .ok _ => finishAttempt plan reach.page
    | .error _ => return reach

/-- Is there no page left to go on with? -/
def isHopeless : Failure → Bool
  | .engine (.noActivePage ..) => true
  | _ => false

/-- How an attempt leaves the loop: done, on a page whose field has reached the reference, or to go
on from a page. A failure that was put down stands beside it. -/
inductive Turn where
  | reached (page : Nat)
  | missed (page : Nat) (error : Option String)

/-- One attempt with what it means for the loop. -/
def takeTurn (plan : LoopPlan τ) (l : Loop) (reference : String) (page : Nat) : Play τ Turn := do
  let reach ← loopAttempt plan l reference page
  match reach.outcome with
  | .ok true => return .reached reach.page
  | .ok false => return .missed reach.page none
  | .error f =>
    if isHopeless f then Play.fail f
    let page ← Session.ensureActive plan.pageTimeout reach.page
    return .missed page (some f.message)

/-- The attempts from `attempt` on, `left` of them. `hook` is called after each. -/
def loopFrom (plan : LoopPlan τ) (l : Loop) (reference : String) (bound : Int)
    (hook : Nat → Int → Play τ Unit) (attempt : Int) (page : Nat) (lastError : Option String) :
    Nat → Play τ Nat
  | 0 => Play.fail (.engine (.loopExceeded l.xpath bound lastError))
  | left + 1 => do
    match ← takeTurn plan l reference page with
    | .reached page => return page
    | .missed page error =>
      hook page attempt
      loopFrom plan l reference bound hook (attempt + 1) page error left

/-- Repeats the loop's actions; gives the page on which the field has reached the reference. -/
def loopUntil (plan : LoopPlan τ) (l : Loop) (reference : String) (bound : Int)
    (hook : Nat → Int → Play τ Unit) (page : Nat) : Play τ Nat :=
  loopFrom plan l reference bound hook 1 page none bound.toNat

end Rehearsal.Target
