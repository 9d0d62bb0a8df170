import Rehearsal.Browser.Page
/-!
A session in a browser and the page a run is on. A page that has been closed is replaced by the
newest open one, on which the session's limits are set.
-/
namespace Rehearsal

/-- What belongs to a session. One that was built around a page that was there already closes
neither browser nor driver. -/
structure Session where
  /-- The page on which the session started. -/
  firstPage : Nat
  /-- The limit for pages, in milliseconds. -/
  timeout : Int
  ownsBrowser : Bool := true
  closed : Bool := false

namespace Session

variable {τ : Type} [Clock τ]

/-- Begins to watch the browser and sets the limits of the first page. -/
def begin (firstPage : Nat) (timeout : Int) (ownsBrowser : Bool) : Play τ Session := do
  Play.change fun s =>
    ({ s with watch := { timeout } }.startWatch).configureTimeouts firstPage timeout
  return { firstPage, timeout, ownsBrowser }

/-- The page itself while it is open, else the newest open one. -/
def ensureActive (timeout : Int) (page : Nat) : Play τ Nat := fun s =>
  if !s.isClosed page then (.done page, s)
  else match s.openPages.getLast? with
    | some other => (.done other, s.configureTimeouts other timeout)
    | none => (.failed (.engine (.noActivePage
        "No active page available: every tab in the session was closed" [])), s)

/-- Waits for side effects of a navigation, then makes sure of the page again. -/
def settle (timeout : Int) (page : Nat) (delay : τ) : Play τ Nat := do
  Play.pause delay
  ensureActive timeout page

/-- How many pages had been created, and how many were open, when an action began. -/
structure Baseline where
  created : Int
  pageCount : Int
deriving Repr, DecidableEq

def Baseline.capture : Play τ Baseline :=
  Play.look fun s => ⟨s.watch.marker, s.pageCount⟩

end Session
end Rehearsal
