import Rehearsal.Text.Cut
/-!
Selectors name elements of a page. A selector says by its first letters which engine resolves it;
one that does not is a path expression.
-/
namespace Rehearsal.Selector
open Rehearsal.Text

/-- What a selector of each engine starts with. -/
def engines : List String := ["xpath=", "css=", "text=", "id=", "role="]

def namesEngine (s : String) : Bool := engines.any (startsWith s)

/-- The selector for an expression: trimmed, and marked as a path unless it names its engine. -/
def ofExpression (expression : String) : String :=
  let s := trim expression
  if namesEngine s then s else "xpath=" ++ s

end Rehearsal.Selector
