import Rehearsal.Value
/-!
Pages of a scripted browser. A page has elements, which selectors name outright, and a script for
each method: one step per call, the last of them for all further calls. A step is a list of effects;
clicks on an element have steps of the same kind.
-/
namespace Rehearsal

/-- An element of a page; `ε` are the effects of its steps. -/
structure Element (ε : Type) where
  /-- The selectors that name it. -/
  selectors : List String
  text : Option String := some ""
  value : Option String := none
  visible : Bool := true
  onClick : List (List ε) := []
  clicks : Nat := 0
deriving Inhabited

/-- What a page tells its listeners. -/
inductive PageEvent where
  | dialog
  | close
  | crash
  | pageError
deriving Repr, DecidableEq

/-- The limits set on a page, in milliseconds; zero means none. -/
structure Timeouts where
  default : Option Int := none
  navigation : Option Int := none
deriving Repr, DecidableEq

structure Page (ε : Type) where
  /-- Text, unless whoever started the run passed something else. -/
  url : Value := .text "about:blank"
  html : String := "<html><body></body></html>"
  /-- The addresses of all frames, the page's own first. -/
  frames : List Value := [.text "about:blank"]
  elements : List (Element ε) := []
  script : List (String × List (List ε)) := []
  closed : Bool := false
  /-- Is the page still among those of its context? -/
  attached : Bool := true
  timeouts : Timeouts := {}
  listeners : List PageEvent := []
deriving Inhabited

/-- What a step does to a page, or by way of a page to its browser; `τ` are spans of time. -/
inductive Effect (τ : Type) where
  | openPage (url : Value) (page : Page (Effect τ))
  | close (id : Option Nat)
  | detach
  | url (u : Value)
  | frames (urls : List Value)
  | html (h : String)
  | value (selector : String) (v : Option String)
  | text (selector : String) (t : Option String)
  | visible (selector : String) (b : Bool)
  | add (e : Element (Effect τ))
  | remove (selector : String)
  /-- A dialog; `fault` is what answering it raises. -/
  | dialog (type message : String) (fault : Option String)
  | crash
  | pageError (message : String)
  | dropListeners
  | elapse (span : τ)
  | raise (message : String) (timedOut : Bool)

/-- The effects of one call. -/
abbrev Step (τ : Type) := List (Effect τ)

/-- Something that happened on a page, with the wall clock's reading at the time. -/
structure Happening (τ : Type) where
  timestamp : τ
  page : Nat
  effect : Effect τ

namespace Page

variable {ε : Type}

/-- Addresses of pages that have not been sent anywhere. -/
def isBlank (p : Page ε) : Bool :=
  match p.url with
  | .text s => s = "" || s = "about:blank"
  | _ => false

end Page

namespace Element

variable {ε : Type}

def matchesSelector (e : Element ε) (selector : String) : Bool := e.selectors.contains selector

end Element

/-- Takes the step of the next call off a script; the last step stays for good. -/
def nextStep {ε : Type} : List (List ε) → List ε × List (List ε)
  | [] => ([], [])
  | [s] => (s, [s])
  | s :: rest => (s, rest)

end Rehearsal
