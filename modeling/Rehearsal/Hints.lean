import Rehearsal.Value
import Rehearsal.Validation.Reading
/-!
Hints about the logical target of a click, used once its selector has stopped matching: attribute
values for a narrower selector, a text to look for, the container to scan for it, and the element
name. Merging prefers the hints on the left, field by field.
-/
namespace Rehearsal

/-- Attribute values in the order in which a selector lists them; names are distinct. -/
abbrev Attributes := List (String × String)

/-- Sets an attribute in place, or adds it at the end. -/
def Attributes.assign (as : Attributes) (name value : String) : Attributes :=
  match as with
  | [] => [(name, value)]
  | (k, old) :: rest =>
    if k = name then (k, value) :: rest else (k, old) :: Attributes.assign rest name value

/-- Assigns all of `new`, in order. -/
def Attributes.update (as new : Attributes) : Attributes :=
  new.foldl (fun acc (name, value) => Attributes.assign acc name value) as

structure Hints where
  text : Option String := none
  attributes : Attributes := []
  container : String := "div"
  tag : Option String := none
deriving Repr, DecidableEq

namespace Hints

/-- The first of the two that is there and not empty; failing both, the second. -/
def preferText (a b : Option String) : Option String :=
  match a with
  | none => b
  | some s => if s = "" then b else some s

/-- The values of `self` win. The attributes of `other` come first in order, and a container left
at `div` counts as not given. -/
def merge (self other : Hints) : Hints where
  text := preferText self.text other.text
  attributes := Attributes.update other.attributes self.attributes
  container := if self.container = "div" then other.container else self.container
  tag := preferText self.tag other.tag

def mergeOption (self : Hints) : Option Hints → Hints
  | none => self
  | some other => self.merge other

open Validation in
/-- Reads the four fields. -/
def ofFields (fields : List (String × Value)) : Checked Hints :=
  let pairs (v : Value) : Checked Attributes := match v with
    | .object as => Checked.all (as.map fun (name, v) =>
        ((Validation.text v).under (.key name)).map (name, ·))
    | _ => .fail .notObject
  let parts :=
    (optional ["text"] fields none (nullable Validation.text)).both <|
    (optional ["attributes"] fields [] pairs).both <|
    (optional ["container"] fields "div" Validation.text).both <|
    optional ["tag"] fields none (nullable Validation.text)
  (parts.keep (onlyFields ["text", "attributes", "container", "tag"] fields)).map
    fun (text, attributes, container, tag) => { text, attributes, container, tag }

open Validation in
/-- Reads hints; fields other than the four are refused. -/
def ofValue : Value → Checked Hints
  | .object fields => ofFields fields
  | _ => .fail (.notRecord "TargetHints")

def attributesValue (as : Attributes) : Value := .object (as.map fun (k, v) => (k, .text v))

def toFields (h : Hints) : List (String × Value) :=
  [("text", Value.ofOption .text h.text), ("attributes", attributesValue h.attributes),
    ("container", .text h.container), ("tag", Value.ofOption .text h.tag)]

def toValue (h : Hints) : Value := .object h.toFields

end Hints
end Rehearsal
