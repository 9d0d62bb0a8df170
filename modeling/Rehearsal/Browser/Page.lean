import Rehearsal.Play
/-!
Calls on pages. A call is put down first; a closed page refuses it; then the page's script takes its
next step, which may raise; and last the call does its work. Calls that name an element by a
selector act on the first visible one, and time out where there is none.
-/
namespace Rehearsal.Browser

variable {τ α : Type} [Clock τ]

def closedMessage : String := "Target page, context or browser has been closed"

def raise (message : String) : Play τ α := Play.fail (.driver { message })

def timeOut (message : String) : Play τ α := Play.fail (.driver { message, timedOut := true })

/-- Takes the next step of a script off a page. -/
def takeStep (scripts : List (String × List (Step τ))) (name : String) :
    Step τ × List (String × List (Step τ)) :=
  match scripts with
  | [] => ([], [])
  | (k, steps) :: rest =>
    if k = name then
      let (step, steps) := nextStep steps
      (step, (k, steps) :: rest)
    else
      let (step, rest) := takeStep rest name
      (step, (k, steps) :: rest)

/-- Runs a step on a page. -/
def runStep (id : Nat) (step : Step τ) : Play τ Unit := fun s =>
  match s.performAll id step with
  | (none, s) => (.done (), s)
  | (some f, s) => (.failed (.driver f), s)

/-- The script's step for a call of the given name. -/
def followScript (id : Nat) (name : String) : Play τ Unit := fun s =>
  match s.page? id with
  | none => (.done (), s)
  | some p =>
    let (step, script) := takeStep p.script name
    runStep id step (s.updatePage id fun p => { p with script })

/-- What every call on a page starts with. -/
def enter (id : Nat) (entry : Call τ) (name : String) : Play τ Unit := do
  Play.change (·.note entry)
  if ← Play.look (·.isClosed id) then raise closedMessage
  followScript id name

def call (id : Nat) (c : PageCall) : Play τ Unit := enter id (.page id c) c.name

/-- The elements of a page with their positions. -/
def elements (id : Nat) : Play τ (List (Nat × Element (Effect τ))) :=
  Play.look fun s => ((s.page? id).map (·.elements)).getD [] |>.mapIdx fun i e => (i, e)

/-- Changes the element at a position of a page. -/
def changeAt (id i : Nat) (change : Element (Effect τ) → Element (Effect τ)) : Play τ Unit :=
  Play.change (·.updatePage id fun p => { p with elements := p.elements.modify i change })

/-- Counts a click and runs the element's step for it. -/
def clickElement (id : Nat) (found : Nat × Element (Effect τ)) : Play τ Unit := do
  let (step, onClick) := nextStep found.2.onClick
  changeAt id found.1 fun e => { e with clicks := e.clicks + 1, onClick }
  runStep id step

def fillElement (id : Nat) (found : Nat × Element (Effect τ)) (value : String) : Play τ Unit :=
  changeAt id found.1 fun e => { e with value := some value }

/-- The first visible element that a selector names. -/
def visibleElement (id : Nat) (selector : String) (timeout : Int) :
    Play τ (Nat × Element (Effect τ)) := do
  match (← elements id).find? fun (_, e) => e.visible && e.matchesSelector selector with
  | some found => return found
  | none => timeOut ("Timeout " ++ toString timeout ++ "ms exceeded waiting for " ++ selector)

/-- What a page shows at an address that no route leads to. -/
def echo (url : Value) : String := "<html><body>" ++ url.display ++ "</body></html>"

/-- Moves a page to an address, which is then that of its only frame. -/
def arrive (url : Value) (p : Page (Effect τ)) : Page (Effect τ) :=
  { p with url, frames := [url] }

/-- Shows on a page what is found at its address. -/
def loadMarkup (s : Stage τ) (id : Nat) (url : Value) : Stage τ :=
  let html := match url with
    | .text u => (s.routes.lookup u).getD (echo url)
    | _ => echo url
  s.updatePage id fun p => { p with html }

/-- Sends a page to an address. Nothing can be found at a list or an object. -/
def goto (id : Nat) (url : Value) : Play τ Unit := do
  call id (.goto url)
  Play.change (·.updatePage id (arrive url))
  match url with
  | .list _ | .object _ => Play.fail (.unusableAddress url.kindName)
  | _ => Play.change (loadMarkup · id url)

def reload (id : Nat) : Play τ Unit := call id .reload

def waitForTimeout (id : Nat) (ms : Float) : Play τ Unit := call id (.waitForTimeout ms)

def waitForLoadState (id : Nat) (state : String) (timeout : Int) : Play τ Unit :=
  call id (.waitForLoadState state timeout)

def bringToFront (id : Nat) : Play τ Unit := call id .bringToFront

/-- The markup of a page. -/
def content (id : Nat) : Play τ String := do
  call id .content
  Play.look fun s => ((s.page? id).map (·.html)).getD ""

def title (id : Nat) : Play τ String := do
  call id .title
  return "Fake page"

def waitForSelector (id : Nat) (selector : String) (timeout : Int) : Play τ Unit := do
  call id (.waitForSelector selector timeout)
  let _ ← visibleElement id selector timeout

def click (id : Nat) (selector : String) (timeout : Int) : Play τ Unit := do
  call id (.click selector timeout)
  clickElement id (← visibleElement id selector timeout)

def fill (id : Nat) (selector value : String) (timeout : Int) : Play τ Unit := do
  call id (.fill selector value timeout)
  fillElement id (← visibleElement id selector timeout) value

def textContent (id : Nat) (selector : String) (timeout : Int) : Play τ (Option String) := do
  call id (.textContent selector timeout)
  let found ← visibleElement id selector timeout
  return found.2.text

/-- Writes the picture of a page into a file. -/
def saveImage (path : Path) : Play τ Unit := fun s =>
  match s.files.isDirectory path with
  | .error f => (.failed (.file f), s)
  | .ok true => (.failed (.driver { message := "EISDIR: " ++ path.text }), s)
  | .ok false =>
    match s.files.write path ⟨.text "fake-image", Clock.nanos s.wall⟩ with
    | .ok files => (.done (), { s with files })
    | .error f => (.failed (.file f), s)

def screenshot (id : Nat) (path : Path) (c : Capture) : Play τ Unit := do
  call id (.screenshot c)
  saveImage path

end Rehearsal.Browser
