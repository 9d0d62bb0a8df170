import Rehearsal.Hints
import Rehearsal.Selector
/-!
The ways to reach a click's target once waiting for its selector has failed, in the order in which
they are tried: the selector without waiting, the attributes of the hints, their text, and last a
scan of all containers for that text.
-/
namespace Rehearsal

inductive Fallback where
  | selector (s : String)
  | attributes (s : String)
  | text (s : String)
  | scan (container text : String)
deriving Repr, DecidableEq

namespace Fallback

def name : Fallback → String
  | selector _ => "selector"
  | attributes _ => "attributes"
  | text _ => "text"
  | scan .. => "scan"

/-- What the page is asked for. -/
def target : Fallback → String
  | selector s | attributes s | text s => s
  | scan container _ => container

end Fallback

namespace Selector

/-- A backslash goes before each backslash and each double quote. -/
def escape : List Char → List Char
  | [] => []
  | c :: rest => if c == '\\' || c == '"' then '\\' :: c :: escape rest else c :: escape rest

/-- `[name="value"]`. -/
def attributeTest (a : String × String) : String :=
  "[" ++ a.1 ++ "=\"" ++ String.ofList (escape a.2.toList) ++ "\"]"

/-- An element of the given name, or any, with these attributes. -/
def ofAttributes (tag : Option String) (attributes : Attributes) : String :=
  "css=" ++ tag.getD "" ++ String.join (attributes.map attributeTest)

end Selector

namespace Hints

/-- The fallbacks for an expression. Hints without attributes, or without text, leave out theirs. -/
def fallbacks (h : Hints) (expression : String) : List Fallback :=
  let byAttributes :=
    if h.attributes.isEmpty then [] else [.attributes (Selector.ofAttributes h.tag h.attributes)]
  let text := h.text.getD ""
  let byText := if text = "" then [] else [.text ("text=" ++ text), .scan h.container text]
  .selector (Selector.ofExpression expression) :: byAttributes ++ byText

end Hints
end Rehearsal
