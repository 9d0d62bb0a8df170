import Rehearsal.Value
/-!
What the engine has noticed of a browser while it watched: pages created, dialogs answered, and
errors on pages. While it watches, it listens to the context for new pages and to each page for
four kinds of events.
-/
namespace Rehearsal

structure PageCreated (τ : Type) where
  timestamp : τ
  page : Nat

/-- How a dialog was answered. `failure` is what the browser said to an answer that it refused. -/
structure DialogNotice (τ : Type) where
  timestamp : τ
  type : String
  message : String
  answer : String
  failure : Option String

structure PageErrorNotice (τ : Type) where
  timestamp : τ
  message : String
  crashed : Bool

structure Watch (τ : Type) where
  started : Bool := false
  /-- The limit set on new pages, in milliseconds. -/
  timeout : Int := 0
  /-- `dismiss` dismisses dialogs; anything else accepts them. -/
  dialogAnswer : String := "accept"
  /-- In order of creation. -/
  created : List (PageCreated τ) := []
  dialogs : List (DialogNotice τ) := []
  errors : List (PageErrorNotice τ) := []
  /-- The pages listened to, in the order in which the listening began. -/
  pages : List Nat := []

namespace Watch

variable {τ : Type}

def dismisses (w : Watch τ) : Bool := w.dialogAnswer = "dismiss"

/-- How many pages have been created so far. -/
def marker (w : Watch τ) : Nat := w.created.length

/-- The pages created since a marker; a negative one counts from the end. -/
def createdSince (w : Watch τ) (marker : Int) : List Nat :=
  let n := w.created.length
  let start := if marker < 0 then (n + marker).toNat else marker.toNat
  (w.created.drop start).map (·.page)

end Watch

/-- How a dialog's answer turned out. -/
def DialogNotice.status {τ : Type} (d : DialogNotice τ) : String :=
  match d.failure with
  | some _ => "error"
  | none => if d.answer = "dismiss" then "dismissed" else "accepted"

namespace DialogNotice

def toFields (d : DialogNotice Float) : List (String × Value) :=
  [("timestamp", Value.float d.timestamp), ("type", .text d.type), ("message", .text d.message),
    ("action", .text d.answer), ("status", .text d.status)] ++
    match d.failure with
    | some e => [("error", .text e)]
    | none => []

end DialogNotice

/-- A crash is an error, anything that a page reports itself a warning. -/
def PageErrorNotice.toFields (e : PageErrorNotice Float) : List (String × Value) :=
  [("timestamp", .float e.timestamp), ("message", .text e.message),
    ("level", .text (if e.crashed then "ERROR" else "WARNING"))]

/-- What has been noticed so far; kinds of events that did not happen are left out. -/
def Watch.snapshot (w : Watch Float) : List (String × Value) :=
  let dialogs := w.dialogs.map fun d => Value.object d.toFields
  let errors := w.errors.map fun e => Value.object e.toFields
  ("pages_created", .int w.created.length) ::
    (if dialogs.isEmpty then [] else [("dialogs", .list dialogs)]) ++
    (if errors.isEmpty then [] else [("page_errors", .list errors)])

end Rehearsal
