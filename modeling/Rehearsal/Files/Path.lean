import Rehearsal.Text.Cut
/-!
File paths: an anchor and a list of names. Reading a path drops empty names and points; `..` stays,
because what it leads to depends on the files. The last name decides how a file is addressed.
-/
namespace Rehearsal

/-- Where a path starts. Exactly two leading slashes are an anchor of their own. -/
inductive Anchor where
  | here
  | root
  | doubleRoot
deriving Repr, DecidableEq

structure Path where
  anchor : Anchor := .here
  names : List String := []
deriving Repr, DecidableEq

def Anchor.text : Anchor → String
  | here => ""
  | root => "/"
  | doubleRoot => "//"

namespace Path

def anchorOf : List Char → Anchor
  | '/' :: '/' :: '/' :: _ => .root
  | '/' :: '/' :: _ => .doubleRoot
  | '/' :: _ => .root
  | _ => .here

/-- The names between the slashes. -/
def namesOf (s : List Char) : List String :=
  ((Text.pieces '/' s).map String.ofList).filter fun n => n ≠ "" ∧ n ≠ "."

def ofText (s : String) : Path := ⟨anchorOf s.toList, namesOf s.toList⟩

/-- The empty path is written as a point. -/
def text (p : Path) : String :=
  let s := p.anchor.text ++ String.intercalate "/" p.names
  if s = "" then "." else s

/-- The last name; empty when there is none. -/
def name (p : Path) : String := p.names.getLast?.getD ""

/-- The entry of that name. The empty name and the point stand for the directory itself. -/
def child (p : Path) (name : String) : Path :=
  if name = "" ∨ name = "." then p else { p with names := p.names ++ [name] }

/-- The path of a text that is taken relative to a directory. -/
def resolve (p : Path) (s : String) : Path :=
  let q := ofText s
  if q.anchor = .here then { p with names := p.names ++ q.names } else q

end Path
end Rehearsal
