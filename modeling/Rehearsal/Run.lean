import Rehearsal.Action.Registry
import Rehearsal.Popup
import Rehearsal.Screenshot.Ledger
import Rehearsal.Session.Launch
import Rehearsal.Target.Clicking
import Rehearsal.Target.Looping
/-!
Running a playbook. A run reads its actions, starts a session, goes to the start address and carries
out one action after another, with a screenshot after each. The first action that fails ends it. A
run ends with its result or with a run failure, which carries the ledger up to that point; either
way the session is closed.
-/
namespace Rehearsal

/-- Why a run failed. -/
inductive RunCause where
  /-- The actions are not a list of actions. -/
  | invalidActions (f : ParseFault)
  | notIterable (kind : String)
  | navigationFailed (url : Value) (error : String)
  /-- An action failed; `code` is that of an engine failure. -/
  | actionFailed (index : Int) (type : String) (error : String) (code : Option String)
  | failed (message : String) (code : String) (details : List (String × Value))

namespace RunCause

def message : RunCause → String
  | invalidActions f => "Invalid actions: " ++ f.message
  | notIterable kind => "Invalid actions: '" ++ kind ++ "' object is not iterable"
  | navigationFailed url error => "Initial navigation to " ++ url.display ++ " failed: " ++ error
  | actionFailed index type error _ =>
    "Action " ++ toString index ++ " (" ++ type ++ ") failed: " ++ error
  | failed message _ _ => message

def code : RunCause → String
  | invalidActions _ | notIterable _ => "INVALID_ACTIONS"
  | navigationFailed .. => "NAVIGATION_FAILED"
  | actionFailed .. => "ACTION_FAILED"
  | failed _ code _ => code

def details : RunCause → List (String × Value)
  | actionFailed index type _ code =>
    [("index", .int index), ("type", .text type), ("cause", Value.ofOption .text code)]
  | failed _ _ details => details
  | _ => []

/-- A failure outside of an action. -/
def ofFailure (f : Failure) : RunCause := failed f.message "RUN_FAILED" []

end RunCause

structure RunFailure where
  cause : RunCause
  records : List Record

namespace RunFailure

/-- What the caller is told. -/
def report (f : RunFailure) : List (String × Value) :=
  let common := [("message", .text f.cause.message), ("code", .text f.cause.code),
    ("screenshots", .list (f.records.map fun r => .object r.toFields))]
  match f.cause with
  | .actionFailed index type _ code =>
    common ++ [("index", .int index), ("action", .text type), ("cause", Value.ofOption .text code)]
  | _ => common

end RunFailure

/-- A text that an action has read. -/
structure Extracted where
  index : Nat
  selector : String
  text : Option String
deriving Repr, DecidableEq

structure RunResult where
  html : String
  records : List Record
  extracted : List Extracted
  watch : Watch Float

def Extracted.toFields (e : Extracted) : List (String × Value) :=
  [("index", .int e.index), ("selector", .text e.selector), ("text", Value.ofOption .text e.text)]

/-- What the caller of a successful run is told. -/
def RunResult.report (r : RunResult) : List (String × Value) :=
  [("success", .flag true), ("message", .text "Scraping completed"), ("html", .text r.html),
    ("screenshots", .list (r.records.map fun x => .object x.toFields)),
    ("extracted", .list (r.extracted.map fun x => .object x.toFields)),
    ("events", .object r.watch.snapshot)]

namespace Run

/-- Where a run stands between two actions. -/
structure State where
  session : Session
  current : Nat
  baseline : Session.Baseline
  extracted : List Extracted := []

/-- The account chooser takes part once it has an account. -/
def sites (settings : Settings) : List Site :=
  let account : String := settings .accountChooserAccount
  if account = "" then [] else [.accountChooser { host := settings .accountChooserHost, account }]

/-- Today's date, which loops count up to. -/
def today : Play Float String := do return (← Play.moment).date.iso

/-- The domains a popup is looked for on. -/
def popupDomains (settings : Settings) (p : PopupSwitch) : List String :=
  if p.domains.isEmpty then settings .popupDomains ++ Site.domains (sites settings) else p.domains

/-- Records every attempt of a loop, if the settings ask for it. -/
def loopHook (settings : Settings) (index : Nat) (l : Loop) (page : Nat) (attempt : Int) :
    Play Float Unit := do
  if (settings .captureLoopIterations : Bool) then
    let _ ← (Screenshot.Camera.ofSettings settings).record (some page)
      { step := "action " ++ toString index ++ " loop", action := some "loopUntil"
        selector := .text l.xpath } (some attempt)

/-- Saves a picture under the last name of a path, in the directory for screenshots. -/
def saveScreenshot (settings : Settings) (page : Nat) (path : String) : Play Float Unit := do
  let directory : Path := settings .screenshotsDir
  let target := directory.child (Path.ofText path).name
  Play.fileWork (·.makeDirectory directory)
  Browser.screenshot page target { path := target.text, fullPage := true }

/-- The state after a play that gives the page to go on with. -/
def State.goOn (state : State) (p : Play Float Nat) : Play Float State := do
  return { state with current := ← p }

/-- Goes to an address. -/
def navigate (settings : Settings) (state : State) (url : String) : Play Float State :=
  state.goOn do
    Browser.goto state.current (.text url)
    Session.settle (settings .browserTimeout) state.current (settings .postGotoDelay)

def clickTarget (settings : Settings) (state : State) (c : Click) : Play Float State :=
  state.goOn do
    Target.click (.ofSettings settings) (sites settings) state.current c
    Session.settle (settings .browserTimeout) state.current (settings .postClickDelay)

def enterValue (settings : Settings) (state : State) (e : Entry) : Play Float State := do
  Target.fill (settings .fillTimeout) state.current e.xpath e.value
  return state

def waitSeconds (settings : Settings) (state : State) (w : Wait) : Play Float State :=
  state.goOn do
    Target.wait state.current w.seconds
    Session.ensureActive (settings .browserTimeout) state.current

def switchToPopup (settings : Settings) (state : State) (p : PopupSwitch) : Play Float State :=
  state.goOn <|
    Popup.switch (.ofSettings settings p.timeout)
      { current := state.current, baseline := state.baseline, required := p.required
        domains := Popup.domainsOr (popupDomains settings p) settings }

/-- Goes back to the page on which the run began. -/
def switchToMain (state : State) : Play Float State :=
  state.goOn do
    if ← Play.look (·.isClosed state.session.firstPage) then
      Play.fail (.engine (.pageClosed "Original page was closed" []))
    Browser.bringToFront state.session.firstPage
    return state.session.firstPage

def repeatLoop (settings : Settings) (index : Nat) (state : State) (l : Loop) : Play Float State :=
  state.goOn do
    Target.loopUntil (.ofSettings settings) l (← today) (Target.attemptBound l settings)
      (loopHook settings index l) state.current

def takeScreenshot (settings : Settings) (state : State) (path : String) : Play Float State := do
  saveScreenshot settings state.current path
  return state

def extractText (settings : Settings) (index : Nat) (state : State) (x : Extraction) :
    Play Float State := do
  let text ← Browser.textContent state.current (Selector.ofExpression x.xpath)
    (settings .clickTimeout)
  return { state with extracted := state.extracted ++ [⟨index, x.xpath, text⟩] }

/-- What is done for the actions of a name, which are expected to be instances of a model. -/
structure Handler where
  expects : Model
  handle : Settings → Nat → State → expects.Data → Play Float State

/-- The handlers of the engine. The one that goes back to the first page makes no use of its
action. -/
def handlers : List (String × Handler) := [
  ("goto", ⟨.goto, fun settings _ => navigate settings⟩),
  ("click", ⟨.click, fun settings _ => clickTarget settings⟩),
  ("type", ⟨.type, fun settings _ => enterValue settings⟩),
  ("wait", ⟨.wait, fun settings _ => waitSeconds settings⟩),
  ("switchToPopup", ⟨.switchToPopup, fun settings _ => switchToPopup settings⟩),
  ("switchToMain", ⟨.switchToMain, fun _ _ state _ => switchToMain state⟩),
  ("loopUntil", ⟨.loopUntil, repeatLoop⟩),
  ("screenshot", ⟨.screenshot, fun settings _ => takeScreenshot settings⟩),
  ("extractText", ⟨.extractText, extractText⟩)]

/-- Carries out an action on the current page by the handler for its name. An action without a
handler is skipped, and so is one that only goes by the name of a handler for another model, which
no action that has been read does. -/
def carryOut (settings : Settings) (index : Nat) (state : State) (a : Action) : Play Float State :=
  match handlers.lookup a.name with
  | some h =>
    if same : a.model = h.expects then h.handle settings index state (a.as h.expects same)
    else return state
  | none => return state

theorem expects_known {name : String} {h : Handler} (found : handlers.lookup name = some h) :
    h.expects ≠ .unknown := by
  have listed : ∀ p ∈ handlers, p.2.expects ≠ .unknown := by simp [handlers]
  obtain ⟨front, rest, entries, -⟩ := List.lookup_eq_some_iff.mp found
  exact listed (name, h) (by simp [entries])

/-- What the table comes to for each kind of action. -/
theorem carryOut_eq (settings : Settings) (index : Nat) (state : State) (a : Action) :
    carryOut settings index state a = match a with
      | .goto url => navigate settings state url
      | .click c => clickTarget settings state c
      | .type e => enterValue settings state e
      | .wait w => waitSeconds settings state w
      | .switchToPopup p => switchToPopup settings state p
      | .switchToMain => switchToMain state
      | .loopUntil l => repeatLoop settings index state l
      | .screenshot path => takeScreenshot settings state path
      | .extractText x => extractText settings index state x
      | .unknown _ => return state := by
  cases a with
  | unknown u =>
    rw [carryOut]
    split
    · next h found => exact dif_neg (expects_known found).symm
    · rfl
  | _ => rfl

/-- An action needs an open page to be on. -/
def checkPreconditions (state : State) : Play Float Unit := do
  if ← Play.look (·.isClosed state.current) then
    Play.fail (.engine (.preconditionFailed "Current page is closed" []))
  if (← Play.look (·.pageCount)) = 0 then
    Play.fail (.engine (.preconditionFailed "No open page in the browser context" []))

/-- An action up to its screenshot. -/
def perform (settings : Settings) (index : Nat) (a : Action) (state : State) :
    Play Float State := do
  checkPreconditions state
  if a.settles then Play.pause (settings .settleDelay : Float)
  carryOut settings index state a

/-- A record of an action. -/
def recordAction (settings : Settings) (page : Option Nat) (step : String) (a : Action)
    (error : Option String) : Play Float Unit := do
  let _ ← (Screenshot.Camera.ofSettings settings).record page
    { step, action := some a.name, selector := a.target, error } none

/-- Looks into a failure on a page: the page's title is looked up, and the page that is active now,
if there is one. -/
def lookInto (settings : Settings) (page : Nat) : Play Float (Option Nat) := do
  if !(← Play.look (·.isClosed page)) then
    let _ ← Play.attempt (Browser.title page)
  let shown ← Play.attempt (Session.ensureActive (settings .browserTimeout) page)
  return shown.toOption

/-- What is done about an action that failed on a page: a screenshot is taken of the page that is
active now. -/
def diagnose (settings : Settings) (index : Nat) (a : Action) (page : Nat) (f : Failure) :
    Play Float RunCause := do
  let shown ← lookInto settings page
  recordAction settings shown ("error on action " ++ toString index) a (some f.message)
  return .actionFailed index a.name f.message f.code?

/-- The state after an action. Actions that may open pages leave the baseline from when they
began. -/
def State.follow (state : State) (a : Action) (baseline : Session.Baseline) : State :=
  if a.opensPages then { state with baseline } else state

/-- One action, with its screenshot. -/
def execute (settings : Settings) (index : Nat) (a : Action) (state : State) :
    Play Float (Except RunCause State) := do
  let baseline ← Session.Baseline.capture
  match ← Play.attempt (perform settings index a state) with
  | .error f => return .error (← diagnose settings index a state.current f)
  | .ok next =>
    match ← Play.attempt
        (recordAction settings (some next.current) ("action " ++ toString index) a none) with
    | .error f => return .error (← diagnose settings index a next.current f)
    | .ok () => return .ok (next.follow a baseline)

/-- The actions in order, from a number on, up to the first that fails. -/
def executeAll (settings : Settings) (index : Nat) (state : State) :
    List Action → Play Float (Except RunCause State)
  | [] => return .ok state
  | a :: rest => do
    match ← execute settings index a state with
    | .error cause => return .error cause
    | .ok state => executeAll settings (index + 1) state rest

/-- A record that belongs to no action. -/
def recordStage (settings : Settings) (page : Nat) (step : String) : Play Float Unit := do
  let _ ← (Screenshot.Camera.ofSettings settings).record (some page) { step } none

/-- After the last action: the last record and the markup of the page. -/
def finish (settings : Settings) (state : State) : Play Float RunResult := do
  let current ← Session.ensureActive (settings .browserTimeout) state.current
  recordStage settings current "final"
  let html ← Browser.safeMarkup current 3 500
  Play.look fun s => { html, records := s.records, extracted := state.extracted, watch := s.watch }

/-- A run in a session, up to its end. -/
def inSession (settings : Settings) (session : Session) (url : Value) (actions : List Action) :
    Play Float (Except RunCause RunResult) := do
  match ← Play.attempt (Browser.goto session.firstPage url) with
  | .error f => return .error (.navigationFailed url f.message)
  | .ok () =>
    recordStage settings session.firstPage "initial"
    let baseline ← Session.Baseline.capture
    match ← executeAll settings 1 { session, current := session.firstPage, baseline } actions with
    | .error cause => return .error cause
    | .ok state => return .ok (← finish settings state)

/-- The play with its failure as the cause of the run's failure. -/
def settled {α : Type} (p : Play Float (Except RunCause α)) : Play Float (Except RunCause α) := do
  match ← Play.attempt p with
  | .ok r => return r
  | .error f => return .error (.ofFailure f)

/-- A run of actions that have been read, with its session from launch to close. -/
def withSession (settings : Settings) (url : Value) (actions : List Action) :
    Play Float (Except RunCause RunResult) := do
  match ← Play.attempt (Session.launch settings) with
  | .error f => return .error (.ofFailure f)
  | .ok session =>
    let result ← settled (inSession settings session url actions)
    let _ ← Session.close session
    return result

/-- The failure of a run with the ledger up to it. -/
def withLedger {α : Type} (r : Except RunCause α) : Play Float (Except RunFailure α) :=
  match r with
  | .ok a => return .ok a
  | .error cause => do return .error ⟨cause, ← Play.look (·.records)⟩

/-- Begins a ledger of its own for a run. -/
def openLedger : Play Float Unit := Play.change fun s => { s with ledger := [] }

/-- Runs a list of items. -/
def ofItems (settings : Settings) (url : Value) (items : List Item) :
    Play Float (Except RunFailure RunResult) := do
  openLedger
  match (Registry.standard.parseItems items).1 with
  | .error f => withLedger (.error (.invalidActions f))
  | .ok actions => withLedger (← withSession settings url actions)

/-- The items that untyped data consists of: of a list its own, of text its characters, of an
object its names. -/
def itemsOf : Value → Except RunCause (List Item)
  | .list items => .ok (items.map .raw)
  | .text s => .ok (s.toList.map fun c => .raw (.text (String.singleton c)))
  | .object fields => .ok (fields.map fun (name, _) => .raw (.text name))
  | v => .error (.notIterable v.kindName)

/-- Runs untyped actions. -/
def ofValue (settings : Settings) (url actions : Value) :
    Play Float (Except RunFailure RunResult) :=
  match itemsOf actions with
  | .error cause => do
    openLedger
    withLedger (.error cause)
  | .ok items => ofItems settings url items

end Run
end Rehearsal
