import Rehearsal.Hints
import Rehearsal.Text.Word
/-!
What the predicates of a path expression tell about its target. An attribute predicate reads
`@name = 'value'`, a text predicate `text() = 'value'` or `., 'value'`; blanks may stand around the
sign, and the quotes are not checked to be of one kind. The element name is that of the first step
with an attribute predicate. Each reader looks at one position; a scan tries them all in order.
-/
namespace Rehearsal.Selector
open Rehearsal.Text

def isQuote (c : Char) : Bool := c == '\'' || c == '"'

def skipBlanks (s : List Char) : List Char := s.dropWhile isBlank

/-- A quoted value and what follows it. The value is not empty and ends at the next quote. -/
def literal? : List Char → Option (List Char × List Char)
  | [] => none
  | q :: rest =>
    if !isQuote q then none
    else match rest.span (fun c => !isQuote c) with
      | ([], _) => none
      | (_, []) => none
      | (value, _ :: after) => some (value, after)

/-- An equals sign with blanks around it, then a quoted value. -/
def equalsLiteral? (s : List Char) : Option (List Char × List Char) :=
  match skipBlanks s with
  | '=' :: rest => literal? (skipBlanks rest)
  | _ => none

/-- A name, which is not empty, and what follows it. -/
def name? (s : List Char) : Option (List Char × List Char) :=
  match s.span isNameChar with
  | ([], _) => none
  | found => some found

/-- An attribute predicate: name, value, and what follows. -/
def attribute? : List Char → Option ((List Char × List Char) × List Char)
  | '@' :: rest => match name? rest with
    | none => none
    | some (name, rest) => (equalsLiteral? rest).map fun (value, rest) => ((name, value), rest)
  | _ => none

/-- The attribute predicates of an expression, in order and without overlap. The first argument
counts the characters that belong to the predicate found last. -/
def attributesFrom : Nat → List Char → List (List Char × List Char)
  | _, [] => []
  | covered + 1, _ :: rest => attributesFrom covered rest
  | 0, c :: rest =>
    match attribute? (c :: rest) with
    | some (found, after) => found :: attributesFrom (rest.length - after.length) rest
    | none => attributesFrom 0 rest

/-- What the reader finds at the first position where it finds anything. -/
def firstFound {α : Type} (read : List Char → Option α) : List Char → Option α
  | [] => read []
  | c :: rest => (read (c :: rest)).or (firstFound read rest)

/-- `text()` or a point. -/
def ownText? (s : List Char) : Option (List Char) :=
  match s with
  | 't' :: 'e' :: 'x' :: 't' :: '(' :: ')' :: rest => some rest
  | '.' :: rest => some rest
  | _ => none

/-- A text predicate's value. -/
def textAt? (s : List Char) : Option (List Char) :=
  match ownText? s with
  | none => none
  | some rest => match skipBlanks rest with
    | ',' :: rest | '=' :: rest => (literal? (skipBlanks rest)).map (·.1)
    | _ => none

/-- An attribute's name and an equals sign. -/
def comparesAttribute : List Char → Bool
  | '@' :: rest => match name? rest with
    | none => false
    | some (_, rest) => (skipBlanks rest).head? == some '='
  | _ => false

/-- Is an attribute compared before the bracket closes? -/
def comparesInside : List Char → Bool
  | [] => false
  | c :: rest => comparesAttribute (c :: rest) || (c != ']' && comparesInside rest)

/-- An element name in front of a predicate that compares an attribute. -/
def tagAt? : List Char → Option (List Char)
  | [] => none
  | c :: rest =>
    if !c.isAlpha then none
    else
      let (more, after) := rest.span isNameChar
      match skipBlanks after with
      | '[' :: inside => if comparesInside inside then some (c :: more) else none
      | _ => none

/-- The value compared with an attribute of the given name, wherever that name occurs first with
one. -/
def valueOf (name : String) (expression : String) : Option String :=
  (firstFound (fun s =>
    if name.toList.isPrefixOf s then (equalsLiteral? (s.drop name.length)).map (·.1)
    else none) expression.toList).map String.ofList

end Rehearsal.Selector

namespace Rehearsal

/-- The hints an expression gives by itself. Of two predicates on one attribute the later counts. -/
def Hints.infer (expression : String) : Hints :=
  let cs := expression.toList
  { text := (Selector.firstFound Selector.textAt? cs).map String.ofList
    attributes := Attributes.update [] ((Selector.attributesFrom 0 cs).map fun (name, value) =>
      (String.ofList name, String.ofList value))
    tag := (Selector.firstFound Selector.tagAt? cs).map String.ofList }

end Rehearsal
