import Rehearsal.Browser.Locating
import Rehearsal.Selector
/-!
Entering values, waiting on a page, and reading the value of a field.
-/
namespace Rehearsal.Target

variable {τ : Type} [Clock τ]

/-- Enters a value; where no visible field can be had, the first field of the selector will do. -/
def fill (timeout : Int) (page : Nat) (expression value : String) : Play τ Unit := do
  let selector := Selector.ofExpression expression
  Play.orElse (Browser.fill page selector value timeout) fun _ => do
    if (← Browser.count page { selector }) = 0 then
      Play.fail (.engine (.fieldNotFound expression))
    Browser.fillLocated page { selector, index := some 0 } value (some timeout)

/-- Waits on a page. A page that closes meanwhile ends the wait without a failure. -/
def wait (page : Nat) (seconds : Float) : Play τ Unit := do
  if ← Play.look (·.isClosed page) then
    Play.fail (.engine (.pageClosed "Page was closed before the wait started" []))
  Play.orElse (Browser.waitForTimeout page (seconds * 1000)) fun f => do
    if !(← Play.look (·.isClosed page)) then Play.fail f

/-- The value that the first field of an expression holds. -/
def fieldValue (page : Nat) (expression : String) : Play τ (Option String) := do
  let field : Locator := { selector := Selector.ofExpression expression, index := some 0 }
  if (← Browser.count page field) = 0 then
    Play.fail (.engine (.elementNotFound expression ""))
  Browser.valueOf page field

end Rehearsal.Target
