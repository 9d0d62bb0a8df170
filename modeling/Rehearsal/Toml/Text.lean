import Rehearsal.Text.Cut
import Rehearsal.Text.Digit
/-!
Text in TOML documents: bare names and quoted text on one line or on several, literal or with
escapes. A reader gives nothing when the document is wrong.
-/
namespace Rehearsal.Toml
open Rehearsal.Text (Reader hexValue? hexNumber)

def isSpace (c : Char) : Bool := c == ' ' || c == '\t'

def isSpaceOrLine (c : Char) : Bool := isSpace c || c == '\n'

/-- Control characters other than the tab, and on several lines other than line feeds. -/
def isIllegal (multiline : Bool) (c : Char) : Bool :=
  (c.toNat < 32 || c.toNat == 127) && c != '\t' && !(multiline && c == '\n')

def skipSpaces (s : List Char) : List Char := s.dropWhile isSpace

/-- A comment, to the end of its line; `none` when it has illegal characters. -/
def skipComment (s : List Char) : Option (List Char) :=
  match s with
  | '#' :: rest =>
    let (comment, rest) := rest.span (· != '\n')
    if comment.any (isIllegal false) then none else some rest
  | _ => some s

/-- Spaces, line ends and comments; `fuel` bounds the number of comments. -/
def skipFiller (s : List Char) : Nat → Option (List Char)
  | 0 => some s
  | fuel + 1 => match s.dropWhile isSpaceOrLine with
    | '#' :: rest => (skipComment ('#' :: rest)).bind fun rest => skipFiller rest fuel
    | rest => some rest

/-- The character with a code point of exactly `width` hexadecimal digits. -/
def codePoint (width : Nat) : Reader Char := fun s =>
  let ds := s.take width
  let n := hexNumber ds
  if ds.length = width ∧ ds.all (hexValue? · |>.isSome) ∧ n.isValidChar then
    some (Char.ofNat n, s.drop width)
  else none

/-- What follows a backslash. -/
def escape : Reader Char
  | 'b' :: rest => some ('\x08', rest)
  | 't' :: rest => some ('\t', rest)
  | 'n' :: rest => some ('\n', rest)
  | 'f' :: rest => some ('\x0c', rest)
  | 'r' :: rest => some ('\r', rest)
  | '"' :: rest => some ('"', rest)
  | '\\' :: rest => some ('\\', rest)
  | 'u' :: rest => codePoint 4 rest
  | 'U' :: rest => codePoint 8 rest
  | _ => none

/-- A backslash at the end of a line joins the lines and drops the white space between them. -/
def lineJoin? (s : List Char) : Option (Option (List Char)) :=
  match s with
  | c :: _ =>
    if !isSpaceOrLine c then none
    else match skipSpaces s with
      | [] => some (some [])
      | '\n' :: rest => some (some (rest.dropWhile isSpaceOrLine))
      | _ => some none
  | [] => none

/-- Text with escapes, up to the closing quotes. `fuel` bounds its length. -/
def basicText (multiline : Bool) (s : List Char) : Nat → Option (List Char × List Char)
  | 0 => none
  | fuel + 1 =>
    let keep (c : Char) (rest : List Char) :=
      (basicText multiline rest fuel).map fun (cs, rest) => (c :: cs, rest)
    match s with
    | [] => none
    | '"' :: rest =>
      if !multiline then some ([], rest)
      else match rest with
        | '"' :: '"' :: rest => some ([], rest)
        | _ => keep '"' rest
    | '\\' :: rest =>
      match (if multiline then lineJoin? rest else none) with
      | some joined => joined.bind fun rest => basicText multiline rest fuel
      | none => (escape rest).bind fun (c, rest) => keep c rest
    | c :: rest => if isIllegal multiline c then none else keep c rest

/-- Text without escapes on one line, up to the closing quote. -/
def literalText : Reader (List Char) := fun s =>
  match s.span (· != '\'') with
  | (cs, _ :: rest) => if cs.any (isIllegal false) then none else some (cs, rest)
  | (_, []) => none

/-- Text without escapes on several lines, up to three quotes. -/
def literalBlock : Reader (List Char)
  | '\'' :: '\'' :: '\'' :: rest => some ([], rest)
  | c :: rest =>
    if isIllegal true c then none else (literalBlock rest).map fun (cs, rest) => (c :: cs, rest)
  | [] => none

/-- Up to two more quotes directly after a block belong to its text. -/
def trailingQuotes (quote : Char) (found : List Char × List Char) : List Char × List Char :=
  let (cs, rest) := found
  match rest with
  | a :: b :: more =>
    if a == quote && b == quote then (cs ++ [quote, quote], more)
    else if a == quote then (cs ++ [quote], b :: more)
    else found
  | [a] => if a == quote then (cs ++ [quote], []) else found
  | [] => found

/-- A line end directly after the opening quotes of a block is dropped. -/
def dropFirstLine : List Char → List Char
  | '\n' :: rest => rest
  | s => s

/-- Quoted text on one line. -/
def quotedLine : Reader String
  | '"' :: rest => (basicText false rest (rest.length + 1)).map fun (cs, r) => (String.ofList cs, r)
  | '\'' :: rest => (literalText rest).map fun (cs, r) => (String.ofList cs, r)
  | _ => none

/-- Quoted text of any form. -/
def quotedText : Reader String
  | '"' :: '"' :: '"' :: rest =>
    let s := dropFirstLine rest
    ((basicText true s (s.length + 1)).map (trailingQuotes '"')).map
      fun (cs, r) => (String.ofList cs, r)
  | '\'' :: '\'' :: '\'' :: rest =>
    ((literalBlock (dropFirstLine rest)).map (trailingQuotes '\'')).map
      fun (cs, r) => (String.ofList cs, r)
  | s => quotedLine s

def isBare (c : Char) : Bool := c.isAlphanum || c == '-' || c == '_'

/-- One part of a name. -/
def namePart : Reader String
  | [] => none
  | c :: rest =>
    if isBare c then
      let (cs, rest) := (c :: rest).span isBare
      some (String.ofList cs, rest)
    else quotedLine (c :: rest)

/-- A name: parts joined by points, with spaces around them. `fuel` bounds the number of parts. -/
def namePath (s : List Char) : Nat → Option (List String × List Char)
  | 0 => none
  | fuel + 1 => match namePart s with
    | none => none
    | some (part, rest) => match skipSpaces rest with
      | '.' :: rest => (namePath (skipSpaces rest) fuel).map fun (parts, r) => (part :: parts, r)
      | rest => some ([part], rest)

end Rehearsal.Toml
