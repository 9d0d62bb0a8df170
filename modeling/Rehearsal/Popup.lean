import Rehearsal.Address.Mention
import Rehearsal.Browser.Stability
import Rehearsal.Session
import Rehearsal.Settings
/-!
Finding the page that a preceding action opened. Signals are looked at in order of confidence: an
open page on a wanted domain, then, again and again until the window has passed, a page created
since the baseline and a rise in the number of open pages; then a frame of the current page on a
wanted domain, and last any other open page. Without any signal the run stays where it is, unless a
popup is required.
-/
namespace Rehearsal.Popup

/-- The times and limits of a search; `τ` are spans of time. -/
structure Plan (τ : Type) where
  /-- How long pages are polled for after the initial delay. -/
  window : τ
  pollInterval : τ
  initialDelay : τ
  settleDelay : τ
  loadTimeout : Int
  /-- The limit set on the page that the run moves to. -/
  pageTimeout : Int

/-- What the search is for. -/
structure Wanted where
  current : Nat
  baseline : Session.Baseline
  domains : List String
  required : Bool
deriving Repr, DecidableEq

/-- The settings' plan, with a window of its own if one is given. -/
def Plan.ofSettings (settings : Settings) (window : Option Float) : Plan Float where
  window := window.getD (settings .popupTimeout)
  pollInterval := settings .popupPollInterval
  initialDelay := settings .popupInitialDelay
  settleDelay := settings .popupSettleDelay
  loadTimeout := settings .popupLoadTimeout
  pageTimeout := settings .browserTimeout

/-- The given domains, or the settings' own where none are given. -/
def domainsOr (given : List String) (settings : Settings) : List String :=
  if given.isEmpty then settings .popupDomains else given

/-- Does the address mention one of the domains? Empty domains do not count. -/
def onDomain (domains : List String) (url : Value) : Except Failure Bool :=
  Address.mentionsAny url (domains.filter (· ≠ ""))

variable {τ : Type}

/-- The newest open page on a wanted domain. -/
def existing (s : Stage τ) (w : Wanted) : Except Failure (Option Nat) :=
  if w.domains.isEmpty then .ok none
  else Failure.findFirst (fun id => onDomain w.domains (s.url id))
    (s.openPages.reverse.filter (· ≠ w.current))

/-- The newest page that the context has announced since the baseline and that is in use. -/
def announced (s : Stage τ) (w : Wanted) : Option Nat :=
  (s.watch.createdSince w.baseline.created).reverse.find? fun id =>
    id ≠ w.current && !s.isClosed id && !s.isBlank id

/-- The newest fitting page, once there are more open pages than at the baseline. -/
def risen (s : Stage τ) (w : Wanted) : Except Failure (Option Nat) :=
  if (s.pageCount : Int) ≤ w.baseline.pageCount then .ok none
  else Failure.findFirst
    (fun id => if w.domains.isEmpty then .ok true else onDomain w.domains (s.url id))
    (s.openPages.reverse.filter fun id => id ≠ w.current && !s.isBlank id)

/-- What a poll sees. -/
def signal (s : Stage τ) (w : Wanted) : Except Failure (Option Nat) :=
  match announced s w with
  | some page => .ok (some page)
  | none => risen s w

/-- Is the current page, or one of its frames, on a wanted domain? -/
def inCurrent (s : Stage τ) (w : Wanted) : Except Failure Bool :=
  if w.domains.isEmpty || s.isClosed w.current then .ok false
  else Failure.anyOf (onDomain w.domains)
    (s.url w.current :: ((s.page? w.current).map (·.frames)).getD [])

/-- The newest open page besides the current one. -/
def anyOther (s : Stage τ) (w : Wanted) : Option Nat :=
  (s.openPages.filter (· ≠ w.current)).getLast?

variable [Clock τ]

/-- Moves to a page: it is given time to load, gets its limits and time to settle. -/
def accept (plan : Plan τ) (page : Nat) : Play τ Nat := do
  let _ ← Browser.stabilize page plan.loadTimeout
  Play.change (·.configureTimeouts page plan.pageTimeout)
  Play.pause plan.settleDelay
  return page

/-- Looks for a signal until there is one or the deadline has come. `turns` bounds the number of
looks. -/
def poll (plan : Plan τ) (w : Wanted) (deadline : τ) : Nat → Play τ (Option Nat)
  | 0 => Play.endless
  | turns + 1 => do
    match ← Play.examine (signal · w) with
    | some page => return some page
    | none =>
      if Clock.le deadline (← Play.look (·.now)) then return none
      Play.sleep plan.pollInterval
      poll plan w deadline turns

def notFound (plan : Plan τ) : Failure :=
  .engine (.popupNotFound ("No popup found within " ++ Clock.rounded plan.window ++ "s") [])

/-- What is done when the window has passed. -/
def fallBack (plan : Plan τ) (w : Wanted) : Play τ Nat := do
  if ← Play.examine (inCurrent · w) then return w.current
  match ← Play.look (anyOther · w) with
  | some page => accept plan page
  | none =>
    if w.required then Play.fail (notFound plan)
    else Session.ensureActive plan.pageTimeout w.current

/-- The page on which the run continues. -/
def switch (plan : Plan τ) (w : Wanted) : Play τ Nat := do
  match ← Play.examine (existing · w) with
  | some page => accept plan page
  | none =>
    Play.pause plan.initialDelay
    let deadline := Clock.add (← Play.look (·.now)) plan.window
    match ← poll plan w deadline (← Play.look (·.patience)) with
    | some page => accept plan page
    | none => fallBack plan w

end Rehearsal.Popup
