import Rehearsal.Toml.Number
/-!
TOML documents. A document is a sequence of assignments and of headers that open tables. No value
is given twice, and a table is opened by a header once; what was written in one piece, as an inline
table or an array, cannot be added to later.
-/
namespace Rehearsal.Toml
open Rehearsal.Text (Reader)

abbrev Table := List (String × Value)

/-- Changes the table at a path, which is made when it is not there. A list of tables stands for its
last one, where lists may be passed at all. -/
def changeAt (throughLists : Bool) (change : Table → Option Table) :
    List String → Table → Option Table
  | [], t => change t
  | name :: rest, t =>
    match t.lookup name with
    | none =>
      (changeAt throughLists change rest []).map fun sub => Value.assign t name (.object sub)
    | some (.object sub) =>
      (changeAt throughLists change rest sub).map fun sub => Value.assign t name (.object sub)
    | some (.list items) =>
      match throughLists, items.getLast? with
      | true, some (.object sub) => (changeAt throughLists change rest sub).map fun sub =>
          Value.assign t name (.list (items.dropLast ++ [.object sub]))
      | _, _ => none
    | some _ => none

/-- Adds a value that must not be there yet. -/
def addNew (name : String) (v : Value) (t : Table) : Option Table :=
  if (t.lookup name).isSome then none else some (t ++ [(name, v)])

/-- Adds an empty table to a list of tables. -/
def addToList (name : String) (t : Table) : Option Table :=
  match t.lookup name with
  | none => some (t ++ [(name, .list [.object []])])
  | some (.list items) => some (Value.assign t name (.list (items ++ [.object []])))
  | some _ => none

def isCompound : Value → Bool
  | .list _ | .object _ => true
  | _ => false

/-- Is the path at or below one of the frozen ones? -/
def isFrozen (frozen : List (List String)) (path : List String) : Bool :=
  frozen.any (·.isPrefixOf path)

def word (w : List Char) (v : Value) : Reader Value := fun s =>
  if w.isPrefixOf s then some (v, s.drop w.length) else none

/-- A value that is not made of others. -/
def scalar (s : List Char) : Except Fault (Value × List Char) :=
  match s with
  | '"' :: _ | '\'' :: _ => (expected (quotedText s)).map fun (t, rest) => (.text t, rest)
  | _ => match (word ['t', 'r', 'u', 'e'] (.flag true) s).or
      (word ['f', 'a', 'l', 's', 'e'] (.flag false) s) with
    | some found => .ok found
    | none => match moment s with
      | some found => expected found
      | none => number s

def names (s : List Char) : Option (List String × List Char) := namePath s (s.length + 1)

/-! The room that nested values take. -/

def arrayRoom : Nat := 2
def inlineRoom : Nat := 3

/-- The room of a document. -/
def wholeRoom : Nat := 986

mutual
/-- A value. `room` limits its depth, and `fuel` bounds the number of parts. -/
def value (room : Nat) (s : List Char) : Nat → Except Fault (Value × List Char)
  | 0 => .error .malformed
  | fuel + 1 => match s with
    | '[' :: rest =>
      if room < arrayRoom then .error .tooDeep
      else do
        let rest ← expected (skipFiller rest rest.length)
        let (vs, rest) ← items (room - arrayRoom) rest fuel
        return (.list vs, rest)
    | '\x7b' :: rest =>
      if room < inlineRoom then .error .tooDeep
      else match skipSpaces rest with
        | '\x7d' :: rest => .ok (.object [], rest)
        | rest => do
          let (t, rest) ← inline (room - inlineRoom) [] [] rest fuel
          return (.object t, rest)
    | s => scalar s
termination_by structural fuel => fuel

/-- The items of an array, from where an item or the end may stand. -/
def items (room : Nat) (s : List Char) : Nat → Except Fault ((List Value) × List Char)
  | 0 => .error .malformed
  | fuel + 1 => match s with
    | ']' :: rest => .ok ([], rest)
    | s => do
      let (v, rest) ← value room s fuel
      match ← expected (skipFiller rest rest.length) with
      | ']' :: rest => return ([v], rest)
      | ',' :: rest =>
        let rest ← expected (skipFiller rest rest.length)
        let (vs, rest) ← items room rest fuel
        return (v :: vs, rest)
      | _ => .error .malformed
termination_by structural fuel => fuel

/-- The assignments of an inline table, added to what has been read of it. -/
def inline (room : Nat) (t : Table) (frozen : List (List String)) (s : List Char) :
    Nat → Except Fault (Table × List Char)
  | 0 => .error .malformed
  | fuel + 1 => do
    let ((path, v), rest) ← assignment room s fuel
    if isFrozen frozen path then .error .malformed
    else
      let t ← expected (changeAt false (addNew (path.getLast?.getD "") v) path.dropLast t)
      match skipSpaces rest with
      | '\x7d' :: rest => return (t, rest)
      | ',' :: rest =>
        inline room t (if isCompound v then path :: frozen else frozen) (skipSpaces rest) fuel
      | _ => .error .malformed
termination_by structural fuel => fuel

/-- A name, an equals sign and a value. -/
def assignment (room : Nat) (s : List Char) : Nat → Except Fault ((List String × Value) × List Char)
  | 0 => .error .malformed
  | fuel + 1 => match names s with
    | some (path, '=' :: rest) => do
      let (v, rest) ← value room (skipSpaces rest) fuel
      return ((path, v), rest)
    | _ => .error .malformed
termination_by structural fuel => fuel
end

/-- What has been read of a document. -/
structure Progress where
  root : Table := []
  /-- The table that assignments go to. -/
  header : List String := []
  /-- Tables that no header may open any more. -/
  opened : List (List String) := []
  /-- Tables that the assignments under the current header made. -/
  pending : List (List String) := []
  frozen : List (List String) := []

namespace Progress

/-- The assignments so far end their part of the document. -/
def endPart (p : Progress) : Progress := { p with opened := p.pending ++ p.opened, pending := [] }

def openTable (p : Progress) (path : List String) : Option Progress :=
  if p.opened.contains path || isFrozen p.frozen path then none
  else (changeAt true some path p.root).map fun root =>
    { p with root, header := path, opened := path :: p.opened }

def openListed (p : Progress) (path : List String) : Option Progress :=
  if isFrozen p.frozen path then none
  else (changeAt true (addToList (path.getLast?.getD "")) path.dropLast p.root).map fun root =>
    { p with
      root
      header := path
      opened := path :: p.opened.filter (!path.isPrefixOf ·)
      frozen := p.frozen.filter (!path.isPrefixOf ·) }

/-- The tables on the way from the header to the value's own table. -/
def between (header path : List String) : List (List String) :=
  (List.range (path.length - 1)).map fun i => header ++ path.take (i + 1)

def assign (p : Progress) (path : List String) (v : Value) : Option Progress :=
  let way := between p.header path
  if way.any p.opened.contains || isFrozen p.frozen (p.header ++ path.dropLast) then none
  else (changeAt true (addNew (path.getLast?.getD "") v) (p.header ++ path.dropLast) p.root).map
    fun root =>
      { p with
        root
        pending := way ++ p.pending
        frozen := if isCompound v then (p.header ++ path) :: p.frozen else p.frozen }

/-- One statement: a header or an assignment. -/
def statement (p : Progress) (s : List Char) : Except Fault (Progress × List Char) :=
  match s with
  | '[' :: '[' :: rest => match names (skipSpaces rest) with
    | some (path, ']' :: ']' :: rest) => (expected (p.endPart.openListed path)).map (·, rest)
    | _ => .error .malformed
  | '[' :: rest => match names (skipSpaces rest) with
    | some (path, ']' :: rest) => (expected (p.endPart.openTable path)).map (·, rest)
    | _ => .error .malformed
  | s => match assignment wholeRoom s (4 * s.length + 4) with
    | .ok ((path, v), rest) => (expected (p.assign path v)).map (·, rest)
    | .error f => .error f

/-- The statements of a document, each on its line. `fuel` bounds the number of lines. -/
def statements (p : Progress) (s : List Char) : Nat → Except Fault Progress
  | 0 => .error .malformed
  | fuel + 1 =>
    let endLine (p : Progress) (s : List Char) : Except Fault Progress :=
      match skipComment (skipSpaces s) with
      | some [] => .ok p
      | some ('\n' :: rest) => p.statements rest fuel
      | _ => .error .malformed
    match skipSpaces s with
    | [] => .ok p
    | '\n' :: rest => p.statements rest fuel
    | '#' :: rest => endLine p ('#' :: rest)
    | s => match p.statement s with
      | .ok (p, rest) => endLine p rest
      | .error f => .error f

end Progress

/-- A line feed alone ends a line. -/
def joinLineEnds : List Char → List Char
  | '\r' :: '\n' :: rest => '\n' :: joinLineEnds rest
  | c :: rest => c :: joinLineEnds rest
  | [] => []

/-- Reads a document. -/
def parse (text : String) : Except Fault Table :=
  let cs := joinLineEnds text.toList
  (({} : Progress).statements cs (cs.length + 1)).map (·.root)

end Rehearsal.Toml
