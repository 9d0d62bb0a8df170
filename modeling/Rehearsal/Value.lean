import Rehearsal.Text.Quoted
import Rehearsal.Decimal.Whole
import Rehearsal.Time.Temporal
/-!
Untyped data as requests, settings files and page scripts carry it. Whole numbers and doubles are
different values, and an object keeps its fields in order. Only settings files have dates and times.
`Value.display` is the text of a value and `Value.truthy` says which values count as present.
-/
namespace Rehearsal

inductive Value where
  | null
  | flag (b : Bool)
  | int (n : Int)
  | float (x : Float)
  | text (s : String)
  | moment (t : Temporal)
  | list (items : List Value)
  | object (fields : List (String × Value))
deriving Inhabited

namespace Value

/-- The name of a value's kind. -/
def kindName : Value → String
  | null => "NoneType"
  | flag _ => "bool"
  | int _ => "int"
  | float _ => "float"
  | text _ => "str"
  | moment t => "datetime." ++ t.kindName
  | list _ => "list"
  | object _ => "dict"

mutual
/-- The form of a value inside another one: like `display`, but with quotes around text and with
dates and times spelled out. -/
def nested : Value → String
  | null => "None"
  | flag b => if b then "True" else "False"
  | int n => toString n
  | float x => Decimal.text x
  | text s => Text.quoted s
  | moment t => t.spelled
  | list items => "[" ++ String.intercalate ", " (nestedItems items) ++ "]"
  | object fields => "\x7b" ++ String.intercalate ", " (nestedFields fields) ++ "\x7d"

def nestedItems : List Value → List String
  | [] => []
  | v :: rest => v.nested :: nestedItems rest

def nestedFields : List (String × Value) → List String
  | [] => []
  | (k, v) :: rest => (Text.quoted k ++ ": " ++ v.nested) :: nestedFields rest
end

/-- The text of a value. -/
def display : Value → String
  | text s => s
  | moment t => t.text
  | v => v.nested

mutual
/-- Can all whole numbers in the value be written? -/
def isWritable : Value → Bool
  | int n => Decimal.isWritable n
  | list items => itemsWritable items
  | object fields => fieldsWritable fields
  | _ => true

def itemsWritable : List Value → Bool
  | [] => true
  | v :: rest => v.isWritable && itemsWritable rest

def fieldsWritable : List (String × Value) → Bool
  | [] => true
  | (_, v) :: rest => v.isWritable && fieldsWritable rest
end

/-- Null, zero, and empty text, lists and objects do not count as present. -/
def truthy : Value → Bool
  | null => false
  | flag b => b
  | int n => n ≠ 0
  | float x => !(x == 0)
  | text s => s ≠ ""
  | moment .. => true
  | list items => !items.isEmpty
  | object fields => !fields.isEmpty

/-- Sets a field in place, or adds it at the end. -/
def assign (fields : List (String × Value)) (name : String) (v : Value) : List (String × Value) :=
  match fields with
  | [] => [(name, v)]
  | (k, old) :: rest => if k = name then (k, v) :: rest else (k, old) :: assign rest name v

def ofOption (f : α → Value) : Option α → Value
  | none => null
  | some a => f a

end Value
end Rehearsal
