import Rehearsal.Stage
/-!
Watching a browser: which handlers are installed and removed, and what each of them does with an
event. A new page is put down, gets the limits of the session, and is listened to from then on. A
dialog is answered at once; an answer that the browser refuses is put down with what it said.
-/
namespace Rehearsal.Stage

variable {τ : Type} [Clock τ]

/-- The events of a page that are listened to. -/
def watchedEvents : List PageEvent := [.dialog, .close, .crash, .pageError]

/-- Begins to listen to a page. -/
def watchPage (s : Stage τ) (id : Nat) : Stage τ :=
  let s := s.updatePage id fun p => { p with listeners := p.listeners ++ watchedEvents }
  { s with watch := { s.watch with pages := s.watch.pages ++ [id] } }

def startWatch (s : Stage τ) : Stage τ :=
  if s.watch.started then s
  else
    let s := { s with
      watch := { s.watch with started := true }, contextListeners := s.contextListeners + 1 }
    s.contextPages.foldl watchPage s

/-- Stops listening to a page. Handlers that are gone already do no harm. -/
def unwatchPage (s : Stage τ) (id : Nat) : Stage τ :=
  s.updatePage id fun p => { p with listeners := watchedEvents.foldl List.erase p.listeners }

def stopWatch (s : Stage τ) : Stage τ :=
  if !s.watch.started then s
  else
    let s := s.watch.pages.foldl unwatchPage { s with contextListeners := s.contextListeners - 1 }
    { s with watch := { s.watch with started := false, pages := [] } }

/-- What the handler of new pages does. -/
def noticePage (s : Stage τ) (id : Nat) : Stage τ :=
  let created := s.watch.created ++ [⟨s.wall, id⟩]
  let s := { s with watch := { s.watch with created } }
  (s.configureTimeouts id s.watch.timeout).watchPage id

/-- A new page, which nobody listens to yet, and which the context announces to whoever listens. -/
def openPage (s : Stage τ) (url : Value) (page : Page (Effect τ)) : Stage τ :=
  let id := s.pages.length
  let frames := url :: page.frames.drop 1
  let s := { s with pages := s.pages ++ [{ page with url, frames, listeners := [] }] }
  if s.contextListeners = 0 then s else s.noticePage id

/-- The answer to a dialog, which the browser may refuse. -/
def answerDialog (s : Stage τ) (type message : String) (fault : Option String) : Stage τ :=
  let timestamp := s.wall
  let answer := s.watch.dialogAnswer
  let s := s.note <|
    if s.watch.dismisses then .dialogDismiss type message else .dialogAccept type message
  let notice : DialogNotice τ := { timestamp, type, message, answer, failure := fault }
  { s with watch := { s.watch with dialogs := s.watch.dialogs ++ [notice] } }

def noticeError (s : Stage τ) (message : String) (crashed : Bool) : Stage τ :=
  let notice : PageErrorNotice τ := { timestamp := s.wall, message, crashed }
  { s with watch := { s.watch with errors := s.watch.errors ++ [notice] } }

/-- Tells the listeners of a page about an event. -/
def emit (s : Stage τ) (id : Nat) (event : PageEvent) (handler : Stage τ → Stage τ) : Stage τ :=
  match s.page? id with
  | none => s
  | some p => (List.replicate (p.listeners.count event) ()).foldl (fun s _ => handler s) s

end Rehearsal.Stage
