import Rehearsal.Browser.Service
import Rehearsal.Session
import Rehearsal.Session.Endpoint
import Rehearsal.Settings
/-!
The beginning and the end of a session. A launch that fails closes what it had opened. Closing ends
the watch, then the context, the browser and the driver; what these calls raise is ignored, and
closing again does nothing.
-/
namespace Rehearsal.Session

/-- How a browser is obtained: one of its own, or one behind an endpoint. -/
def obtain (settings : Settings) : Play Float Unit := do
  let url : String := settings .cdpUrl
  if url = "" then
    Browser.service (.launch (settings .headless) (settings .launchArgs))
  else
    if !(← Endpoint.wait url (6 : Float) (0.25 : Float)) then
      Play.fail (.engine (.general ("CDP endpoint " ++ url ++ " is not responding")
        "BROWSER_UNAVAILABLE" []))
    Browser.service (.connect url)

def contextOptions (settings : Settings) : ContextOptions where
  userAgent := settings .userAgent
  width := settings .viewportWidth
  height := settings .viewportHeight
  locale := settings .locale
  ignoreHttpsErrors := settings .ignoreHttpsErrors

/-- Ignores a failure of the driver. -/
def ignoreDriver {τ : Type} (p : Play τ Unit) : Play τ Unit :=
  Play.orElse p fun
    | .driver _ => pure ()
    | f => Play.fail f

/-- A new context, which nobody listens to and which has no pages, so that nothing has happened on
them, and its first page. -/
def openContext (settings : Settings) : Play Float Nat := do
  Browser.service (.newContext (contextOptions settings))
  Play.change fun s => { s with pages := [], happened := [], contextListeners := 0 }
  Browser.newPage

/-- Starts a browser and a session in it. -/
def launch (settings : Settings) : Play Float Session := do
  Browser.service .start
  match ← Play.attempt (obtain settings) with
  | .error f =>
    Browser.service .stop
    Play.fail f
  | .ok () =>
    match ← Play.attempt (openContext settings) with
    | .error f =>
      ignoreDriver (Browser.service .closeBrowser)
      Browser.service .stop
      Play.fail f
    | .ok page => begin page (settings .browserTimeout) true

/-- A session around a page, without a browser of its own. -/
def adopt (settings : Settings) : Play Float Session := do
  let page ← Browser.newPage
  begin page (settings .browserTimeout) false

/-- Does a call and ignores its failure. -/
def quietly {τ : Type} (p : Play τ Unit) : Play τ Unit := Play.orElse p fun _ => pure ()

/-- Ends the watch and closes what belongs to the session. -/
def release {τ : Type} [Clock τ] (session : Session) : Play τ Unit := do
  Play.change Stage.stopWatch
  quietly (Browser.service .closeContext)
  if session.ownsBrowser then
    quietly (Browser.service .closeBrowser)
    quietly (Browser.service .stop)

def close {τ : Type} [Clock τ] (session : Session) : Play τ Session := do
  if session.closed then return session
  release session
  return { session with closed := true }

end Rehearsal.Session
