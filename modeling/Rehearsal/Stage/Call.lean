import Rehearsal.Value
/-!
The journal of a run: every call that leaves the engine, and every pause, in order.
-/
namespace Rehearsal

/-- How a screenshot is taken. Only one format has a quality. -/
structure Capture where
  path : String
  fullPage : Bool
  imageType : Option String := none
  quality : Option Int := none
deriving Repr, DecidableEq

/-- Asynchronous calls on a page, or on the elements of a page that a locator picks. -/
inductive PageCall where
  | goto (url : Value)
  | reload
  | waitForTimeout (ms : Float)
  | waitForLoadState (state : String) (timeout : Int)
  | bringToFront
  | content
  | title
  | waitForSelector (selector : String) (timeout : Int)
  | click (selector : String) (timeout : Int)
  | fill (selector value : String) (timeout : Int)
  | textContent (selector : String) (timeout : Int)
  | screenshot (c : Capture)

/-- Which of the elements that match: all of them, or one by its index. -/
structure Locator where
  selector : String
  index : Option Nat := none
deriving Repr, DecidableEq

inductive LocatorCall where
  | count
  | all
  | click (timeout : Option Int)
  | fill (value : String) (timeout : Option Int)
  | textContent
  | getAttribute (name : String)
deriving Repr, DecidableEq

/-- The fingerprint under which a browser context is opened. -/
structure ContextOptions where
  userAgent : String
  width : Int
  height : Int
  locale : String
  ignoreHttpsErrors : Bool
deriving Repr, DecidableEq

/-- Calls that start and end a browser. -/
inductive ServiceCall where
  | start
  | launch (headless : Bool) (args : List String)
  | connect (url : String)
  | newContext (o : ContextOptions)
  | newPage
  | closeContext
  | closeBrowser
  | stop
deriving Repr, DecidableEq

/-- An entry of the journal. -/
inductive Call (τ : Type) where
  | sleep (span : τ)
  | page (id : Nat) (c : PageCall)
  | locator (id : Nat) (l : Locator) (c : LocatorCall)
  | service (c : ServiceCall)
  | httpClient
  | httpGet (url : String)
  | dialogAccept (type message : String)
  | dialogDismiss (type message : String)

/-- The name of a call, which is also its name in scripts. -/
def PageCall.name : PageCall → String
  | goto _ => "goto"
  | reload => "reload"
  | waitForTimeout _ => "wait_for_timeout"
  | waitForLoadState .. => "wait_for_load_state"
  | bringToFront => "bring_to_front"
  | content => "content"
  | title => "title"
  | waitForSelector .. => "wait_for_selector"
  | click .. => "click"
  | fill .. => "fill"
  | textContent .. => "text_content"
  | screenshot _ => "screenshot"

def LocatorCall.name : LocatorCall → String
  | count => "locator.count"
  | all => "locator.all"
  | click _ => "locator.click"
  | fill .. => "locator.fill"
  | textContent => "locator.text_content"
  | getAttribute _ => "locator.get_attribute"

/-- The name under which a call may be made to fail. -/
def ServiceCall.name : ServiceCall → String
  | start => "playwright.start"
  | launch .. => "chromium.launch"
  | connect _ => "chromium.connect_over_cdp"
  | newContext _ => "browser.new_context"
  | newPage => "context.new_page"
  | closeContext => "context.close"
  | closeBrowser => "browser.close"
  | stop => "playwright.stop"

end Rehearsal
