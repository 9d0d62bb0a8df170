import Rehearsal.Failure
import Rehearsal.Screenshot.Record
import Rehearsal.Stage.Call
import Rehearsal.Stage.Page
import Rehearsal.Stage.Watch
import Rehearsal.Time.Clock
/-!
The stage on which a run plays: a scripted browser, an endpoint that answers requests, files and a
clock, together with what the engine keeps while it plays: its watch over the browser, its ledger
and its journal. Pages are known by their number in order of creation.
-/
namespace Rehearsal

/-- What a debugging endpoint does with a request. -/
inductive Answer where
  | status (code : Int)
  /-- No answer came through; another request may do better. -/
  | unreachable
  | unreadable
deriving Repr, DecidableEq

structure Stage (τ : Type) where
  /-- The wall clock's reading at the start, in seconds since 1970. -/
  epoch : Int := 1714564800
  now : τ
  /-- The pages that the browser's first page comes with. -/
  prepared : List (Page (Effect τ)) := [{}]
  pages : List (Page (Effect τ)) := []
  /-- What has happened on the pages of the context since it was opened, newest first. -/
  happened : List (Happening τ) := []
  /-- What pages show at an address. -/
  routes : List (String × String) := []
  /-- Messages of the service calls that fail. -/
  faults : List (String × String) := []
  /-- The endpoint's answers; the last one repeats, and none at all stands for success. -/
  answers : List Answer := []
  files : Files := { home := ["work"], entries := [] }
  /-- How many handlers listen to the context for new pages. -/
  contextListeners : Nat := 0
  watch : Watch τ := {}
  /-- Newest first. -/
  ledger : List Record := []
  /-- Newest first. -/
  journal : List (Call τ) := []
  /-- What happens to the browser by itself, one entry during each pause. -/
  meanwhile : List (Nat × Step τ) := []
  /-- How many turns of a polling loop are looked at before it counts as endless. -/
  patience : Nat := 1000000

namespace Stage

variable {τ : Type}

/-- Adds an entry to the journal. -/
def note (s : Stage τ) (c : Call τ) : Stage τ := { s with journal := c :: s.journal }

/-- The journal in order. -/
def trace (s : Stage τ) : List (Call τ) := s.journal.reverse

/-- The ledger in order. -/
def records (s : Stage τ) : List Record := s.ledger.reverse

def page? (s : Stage τ) (id : Nat) : Option (Page (Effect τ)) := s.pages[id]?

def isClosed (s : Stage τ) (id : Nat) : Bool := (s.page? id).all (·.closed)

def updatePage (s : Stage τ) (id : Nat) (change : Page (Effect τ) → Page (Effect τ)) : Stage τ :=
  { s with pages := s.pages.modify id change }

/-- The pages of the context, in order of creation. -/
def contextPages (s : Stage τ) : List Nat :=
  (List.range s.pages.length).filter fun id => (s.page? id).any (·.attached)

/-- The open pages of the context, in order of creation. -/
def openPages (s : Stage τ) : List Nat := s.contextPages.filter fun id => !s.isClosed id

def pageCount (s : Stage τ) : Nat := s.openPages.length

/-- The address of a page. -/
def url (s : Stage τ) (id : Nat) : Value := ((s.page? id).map (·.url)).getD (.text "")

def isBlank (s : Stage τ) (id : Nat) : Bool := ((s.page? id).map (·.isBlank)).getD true

/-- Sets both limits of a page. -/
def configureTimeouts (s : Stage τ) (id : Nat) (timeout : Int) : Stage τ :=
  s.updatePage id fun p => { p with timeouts := ⟨some timeout, some timeout⟩ }

/-- The wall clock's reading. -/
def wall [Clock τ] (s : Stage τ) : τ := Clock.wall s.epoch s.now

end Stage
end Rehearsal
