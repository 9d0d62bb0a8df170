import Rehearsal.Browser.Page
import Rehearsal.Text.Case
/-!
Waits that let an unstable page settle, and reading the markup of a page that may be on its way to
another address. Waiting and reloading never fail; they tell whether they worked.
-/
namespace Rehearsal.Browser

variable {τ : Type} [Clock τ]

/-- Does the play end well? Its failure is put aside. -/
def succeeds (p : Play τ Unit) : Play τ Bool := do
  match ← Play.attempt p with
  | .ok () => return true
  | .error _ => return false

/-- The limit for reaching a load state, in milliseconds. -/
def loadTimeout : Int := 15000

def waitForState (id : Nat) (state : String) (timeout : Int) : Play τ Bool :=
  succeeds (waitForLoadState id state timeout)

/-- First the document, then a quiet network. -/
def stabilize (id : Nat) (timeout : Int) : Play τ Bool := do
  let ready ← waitForState id "domcontentloaded" timeout
  let idle ← waitForState id "networkidle" timeout
  return ready && idle

def safeReload (id : Nat) : Play τ Bool := succeeds (reload id)

/-- Failures that say that the page is being navigated, in either case of letters. -/
def navigating (message : String) : Bool :=
  let m := Text.lower message
  Text.contains m "navigating and changing" || Text.contains m "page is navigating"

/-- Reads the markup; up to `more` times it tries again when the page is being navigated. -/
def contentRetrying (id : Nat) (delay : τ) : Nat → Play τ String
  | 0 => content id
  | more + 1 => Play.orElse (content id) fun f =>
    if navigating f.message then do
      Play.sleep delay
      let _ ← waitForState id "domcontentloaded" 5000
      contentRetrying id delay more
    else Play.fail f

/-- The markup, read at most `attempts` times. No attempt at all gives empty markup. -/
def safeContent (id : Nat) (attempts : Int) (delay : τ) : Play τ String :=
  match attempts.toNat with
  | 0 => return ""
  | more + 1 => contentRetrying id delay more

/-- The markup, with the delay in milliseconds. -/
def safeMarkup (id : Nat) (attempts : Int) (delayMs : Float) : Play Float String :=
  safeContent id attempts (delayMs / 1000)

end Rehearsal.Browser
