import Rehearsal.Text.Cut
import Rehearsal.Value
/-!
JSON texts. Besides what the format allows, the words `NaN`, `Infinity` and `-Infinity` are
numbers. Of several fields of one name the last counts, in the first one's place. Numbers without a
point and without an exponent are whole. Arrays and objects are nested to a limited depth; what
opens beyond it is a fault of its own, even where the text is wrong further on.
-/
namespace Rehearsal.Json
open Rehearsal.Text (Reader hexValue? hexNumber)
open Rehearsal.Decimal

inductive Fault where
  | malformed
  | deepArray
  | deepObject
deriving Repr, DecidableEq

def Fault.message : Fault → String
  | malformed => "malformed text"
  | deepArray => tooDeep "array"
  | deepObject => tooDeep "object"
where
  tooDeep (kind : String) : String :=
    "maximum recursion depth exceeded while decoding a JSON " ++ kind ++ " from a unicode string"

/-- How many arrays and objects may stand around a value. -/
def depthLimit : Nat := 975

/-- What must stand here; its lack makes the text malformed. -/
def expected {α : Type} : Option α → Except Fault α
  | some a => .ok a
  | none => .error .malformed

def isSpace (c : Char) : Bool := c == ' ' || c == '\t' || c == '\n' || c == '\r'

def skipSpaces (s : List Char) : List Char := s.dropWhile isSpace

/-- Four hexadecimal digits. -/
def unit : Reader Nat := fun s =>
  let ds := s.take 4
  if ds.length = 4 ∧ ds.all (hexValue? · |>.isSome) then some (hexNumber ds, s.drop 4) else none

/-- A character given by its unit, or by two units where one does not suffice. -/
def escapedUnit : Reader Char := fun s =>
  match unit s with
  | none => none
  | some (n, rest) =>
    let pair : Option (Char × List Char) :=
      if 0xD800 ≤ n ∧ n < 0xDC00 then
        match rest with
        | '\\' :: 'u' :: more => match unit more with
          | some (m, rest) =>
            if 0xDC00 ≤ m ∧ m < 0xE000 then
              some (Char.ofNat (0x10000 + (n - 0xD800) * 1024 + (m - 0xDC00)), rest)
            else none
          | none => none
        | _ => none
      else none
    some (pair.getD (if 0xD800 ≤ n ∧ n < 0xE000 then '\ufffd' else Char.ofNat n, rest))

/-- What follows a backslash. -/
def escape : Reader Char
  | '"' :: rest => some ('"', rest)
  | '\\' :: rest => some ('\\', rest)
  | '/' :: rest => some ('/', rest)
  | 'b' :: rest => some ('\x08', rest)
  | 'f' :: rest => some ('\x0c', rest)
  | 'n' :: rest => some ('\n', rest)
  | 'r' :: rest => some ('\r', rest)
  | 't' :: rest => some ('\t', rest)
  | 'u' :: rest => escapedUnit rest
  | _ => none

/-- Text up to the closing quote. `fuel` bounds its length. -/
def textFrom (s : List Char) : Nat → Option (List Char × List Char)
  | 0 => none
  | fuel + 1 =>
    match s with
    | [] => none
    | '"' :: rest => some ([], rest)
    | '\\' :: rest => (escape rest).bind fun (c, rest) =>
        (textFrom rest fuel).map fun (cs, rest) => (c :: cs, rest)
    | c :: rest =>
      if c.toNat < 32 then none else (textFrom rest fuel).map fun (cs, rest) => (c :: cs, rest)

def text : Reader String
  | '"' :: rest => (textFrom rest (rest.length + 1)).map fun (cs, rest) => (String.ofList cs, rest)
  | _ => none

def fractionPart (s : List Char) : List Char × List Char :=
  match s with
  | '.' :: rest => match rest.span isDigit with
    | ([], _) => ([], s)
    | (ds, rest) => ('.' :: ds, rest)
  | _ => ([], s)

def exponentPart (s : List Char) : List Char × List Char :=
  let digits (sign : List Char) (rest : List Char) : List Char × List Char :=
    match rest.span isDigit with
    | ([], _) => ([], s)
    | (ds, rest) => ('e' :: sign ++ ds, rest)
  match s with
  | e :: rest =>
    if e == 'e' || e == 'E' then
      match rest with
      | '+' :: rest => digits ['+'] rest
      | '-' :: rest => digits ['-'] rest
      | rest => digits [] rest
    else ([], s)
  | [] => ([], s)

/-- A number; whole numbers have a limited number of digits. -/
def number (s : List Char) : Option (Value × List Char) :=
  let (sign, rest) := match s with
    | '-' :: rest => (['-'], rest)
    | rest => ([], rest)
  let (whole, rest) := match rest with
    | '0' :: rest => (['0'], rest)
    | rest => rest.span isDigit
  if whole.isEmpty then none
  else
    let (fraction, rest) := fractionPart rest
    let (power, rest) := exponentPart rest
    if fraction.isEmpty && power.isEmpty then
      if digitLimit < whole.length then none
      else (whole? (sign ++ whole)).map fun n => (.int n, rest)
    else (decimal? (sign ++ whole ++ fraction ++ power)).map fun x => (.float x, rest)

def words : List (String × Value) :=
  [("null", .null), ("true", .flag true), ("false", .flag false), ("NaN", .float (0 / 0)),
    ("Infinity", .float (1 / 0)), ("-Infinity", .float (-1 / 0))]

def word (s : List Char) : Option (Value × List Char) :=
  words.findSome? fun (w, v) => if w.toList.isPrefixOf s then some (v, s.drop w.length) else none

mutual
/-- A value. `room` limits its depth, and `fuel` bounds the number of parts. -/
def value (room : Nat) (s : List Char) : Nat → Except Fault (Value × List Char)
  | 0 => .error .malformed
  | fuel + 1 => match s with
    | '[' :: rest =>
      if room = 0 then .error .deepArray
      else match skipSpaces rest with
        | ']' :: rest => .ok (.list [], rest)
        | rest => (items (room - 1) rest fuel).map fun (vs, rest) => (.list vs, rest)
    | '\x7b' :: rest =>
      if room = 0 then .error .deepObject
      else match skipSpaces rest with
        | '\x7d' :: rest => .ok (.object [], rest)
        | rest => (fields (room - 1) [] rest fuel).map fun (fs, rest) => (.object fs, rest)
    | '"' :: _ => (expected (text s)).map fun (t, rest) => (.text t, rest)
    | s => expected ((word s).or (number s))
termination_by structural fuel => fuel

def items (room : Nat) (s : List Char) : Nat → Except Fault (List Value × List Char)
  | 0 => .error .malformed
  | fuel + 1 => match value room s fuel with
    | .error f => .error f
    | .ok (v, rest) => match skipSpaces rest with
      | ']' :: rest => .ok ([v], rest)
      | ',' :: rest => (items room (skipSpaces rest) fuel).map fun (vs, rest) => (v :: vs, rest)
      | _ => .error .malformed
termination_by structural fuel => fuel

def fields (room : Nat) (found : List (String × Value)) (s : List Char) :
    Nat → Except Fault (List (String × Value) × List Char)
  | 0 => .error .malformed
  | fuel + 1 => match text s with
    | none => .error .malformed
    | some (name, rest) => match skipSpaces rest with
      | ':' :: rest => match value room (skipSpaces rest) fuel with
        | .error f => .error f
        | .ok (v, rest) =>
          let found := Value.assign found name v
          match skipSpaces rest with
          | '\x7d' :: rest => .ok (found, rest)
          | ',' :: rest => fields room found (skipSpaces rest) fuel
          | _ => .error .malformed
      | _ => .error .malformed
termination_by structural fuel => fuel
end

/-- Reads a text. -/
def parse (s : String) : Except Fault Value :=
  let cs := s.toList
  match value depthLimit (skipSpaces cs) (4 * cs.length + 4) with
  | .ok (v, rest) => if (skipSpaces rest).isEmpty then .ok v else .error .malformed
  | .error f => .error f

end Rehearsal.Json
