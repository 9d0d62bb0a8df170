import Rehearsal.Stage.Watching
/-!
What the effects of a step do. Effects run in order on the page whose step it is; one that raises
ends the step.
-/
namespace Rehearsal.Stage

variable {τ : Type} [Clock τ]

/-- Changes the first element of a list that a selector names. -/
def changeFirst {ε : Type} (selector : String) (change : Element ε → Element ε) :
    List (Element ε) → List (Element ε)
  | [] => []
  | e :: rest =>
    if e.matchesSelector selector then change e :: rest else e :: changeFirst selector change rest

def changeElement (s : Stage τ) (id : Nat) (selector : String)
    (change : Element (Effect τ) → Element (Effect τ)) : Stage τ :=
  s.updatePage id fun p => { p with elements := changeFirst selector change p.elements }

/-- Closes a page, which tells its listeners once. -/
def closePage (s : Stage τ) (id : Nat) : Stage τ :=
  s.updatePage id fun p => { p with closed := true }

/-- Puts down what happens on a page, if the page is there. -/
def witness (s : Stage τ) (id : Nat) (e : Effect τ) : Stage τ :=
  { s with happened := (s.page? id).toList.map (fun _ => ⟨s.wall, id, e⟩) ++ s.happened }

/-- What an effect on a page does, and what it raises, if anything. -/
def act (s : Stage τ) (id : Nat) : Effect τ → Option DriverFailure × Stage τ
  | .openPage url page => (none, s.openPage url page)
  | .close other => (none, s.closePage (other.getD id))
  | .detach => (none, s.updatePage id fun p => { p with attached := false })
  | .url u => (none, s.updatePage id fun p => { p with url := u })
  | .frames urls => (none, s.updatePage id fun p => { p with frames := urls })
  | .html h => (none, s.updatePage id fun p => { p with html := h })
  | .value selector v => (none, s.changeElement id selector fun e => { e with value := v })
  | .text selector t => (none, s.changeElement id selector fun e => { e with text := t })
  | .visible selector b => (none, s.changeElement id selector fun e => { e with visible := b })
  | .add e => (none, s.updatePage id fun p => { p with elements := p.elements ++ [e] })
  | .remove selector => (none, s.updatePage id fun p =>
      { p with elements := p.elements.filter fun e => !e.matchesSelector selector })
  | .dialog type message fault =>
    (none, s.emit id .dialog fun s => s.answerDialog type message fault)
  | .crash => (none, s.emit id .crash fun s => s.noticeError "Page crashed" true)
  | .pageError message => (none, s.emit id .pageError fun s => s.noticeError message false)
  | .dropListeners => (none, s.updatePage id fun p => { p with listeners := [] })
  | .elapse span => (none, { s with now := Clock.add s.now span })
  | .raise message timedOut => (some { message, timedOut }, s)

/-- One effect on a page. -/
def perform (s : Stage τ) (id : Nat) (e : Effect τ) : Option DriverFailure × Stage τ :=
  (s.witness id e).act id e

/-- The effects of a step, up to the first that raises. -/
def performAll (s : Stage τ) (id : Nat) : Step τ → Option DriverFailure × Stage τ
  | [] => (none, s)
  | e :: rest => match s.perform id e with
    | (none, s) => s.performAll id rest
    | (some f, s) => (some f, s)

/-- The effects of what happens by itself, all of them. -/
def happen (s : Stage τ) (id : Nat) (step : Step τ) : Stage τ :=
  step.foldl (fun s e => (s.perform id e).2) s

/-- A pause. -/
def sleep (s : Stage τ) (span : τ) : Stage τ :=
  let s := { s.note (.sleep span) with now := Clock.add s.now span }
  match s.meanwhile with
  | [] => s
  | (id, step) :: rest => { s with meanwhile := rest }.happen id step

end Rehearsal.Stage
