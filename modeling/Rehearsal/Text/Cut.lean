import Rehearsal.Text.Blank
/-!
Cutting text into pieces and looking for one text in another. Everything works on lists of
characters; the forms on strings only convert.
-/
namespace Rehearsal.Text

/-- A reader takes characters and gives what it read with what follows, or nothing. -/
abbrev Reader (α : Type) := List Char → Option (α × List Char)

/-- The pieces between the occurrences of the separator, empty ones included: one more than there
are occurrences. -/
def pieces (sep : Char) : List Char → List (List Char)
  | [] => [[]]
  | c :: rest =>
    if c == sep then [] :: pieces sep rest
    else match pieces sep rest with
      | [] => [[c]]
      | p :: ps => (c :: p) :: ps

/-- The entries of a comma-separated list, trimmed; empty entries are left out. -/
def commaList (s : String) : List String :=
  ((pieces ',' s.toList).map fun p => String.ofList (trimChars isBlank p)).filter (· ≠ "")

/-- Does `needle` occur in the text? The empty needle occurs everywhere. -/
def occursIn (needle : List Char) : List Char → Bool
  | [] => needle.isEmpty
  | c :: rest => needle.isPrefixOf (c :: rest) || occursIn needle rest

def contains (text needle : String) : Bool := occursIn needle.toList text.toList

def startsWith (text start : String) : Bool := start.toList.isPrefixOf text.toList

def endsWith (text ending : String) : Bool := ending.toList.isSuffixOf text.toList

/-- Splits at the first occurrence of `sep`; the separator is dropped. -/
def cutAt (sep : Char) (s : List Char) : Option (List Char × List Char) :=
  match s.span (· != sep) with
  | (_, []) => none
  | (before, _ :: after) => some (before, after)

example : pieces ',' ['a', ',', ',', 'b'] = [['a'], [], ['b']] := by decide
example : occursIn ['b', 'c'] ['a', 'b', 'c'] = true := by decide

end Rehearsal.Text
