import Rehearsal.Settings
import Rehearsal.Text.Case
import Rehearsal.Validation.Reading
/-!
Settings from untyped data. Names count without regard to case, unknown names are ignored, and each
value is converted to its setting's kind, in the order given; the first that cannot be stops the
reading. Of several values for one setting the last counts.
-/
namespace Rehearsal
open Rehearsal.Text Rehearsal.Decimal

/-- Why a value does not convert. -/
inductive ConvertFault where
  | badWhole (s : String)
  | longWhole (digits : Nat)
  /-- A whole number that has too many digits to be written. -/
  | unwritableWhole
  | infiniteWhole
  | undefinedWhole
  | notWhole (kind : String)
  | badNumber (s : String)
  | hugeNumber
  | notNumber (kind : String)
  | notPath (kind : String)
  | notIterable (kind : String)
  | notTable (kind : String)
deriving Repr, DecidableEq

namespace ConvertFault

def message : ConvertFault → String
  | badWhole s => "invalid literal for int() with base 10: " ++
      String.ofList ((quoted s).toList.take 200)
  | longWhole digits => limitText (some digits)
  | unwritableWhole => limitText none
  | infiniteWhole => "cannot convert float infinity to integer"
  | undefinedWhole => "cannot convert float NaN to integer"
  | notWhole kind =>
    "int() argument must be a string, a bytes-like object or a real number, not '" ++ kind ++ "'"
  | badNumber s => "could not convert string to float: " ++ quoted s
  | hugeNumber => "int too large to convert to float"
  | notNumber kind => "float() argument must be a string or a real number, not '" ++ kind ++ "'"
  | notPath kind => "expected str, bytes or os.PathLike object, not " ++ kind
  | notIterable kind => "'" ++ kind ++ "' object is not iterable"
  | notTable kind => "'" ++ kind ++ "' object is not a mapping"

end ConvertFault

namespace Convert

def wholeOfText (s : String) : Except ConvertFault Int :=
  match readWhole s.toList with
  | .ok n => .ok n
  | .error (.tooLong digits) => .error (.longWhole digits)
  | .error .unreadable => .error (.badWhole s)

/-- The whole part of a double. -/
def wholeOfDouble (x : Float) : Except ConvertFault Int :=
  match Shape.ofFloat x with
  | .finite b => .ok b.truncate
  | .infinite _ => .error .infiniteWhole
  | .notANumber => .error .undefinedWhole

def count : Value → Except ConvertFault Int
  | .int n => .ok n
  | .flag b => .ok (if b then 1 else 0)
  | .float x => wholeOfDouble x
  | .text s => wholeOfText s
  | v => .error (.notWhole v.kindName)

def seconds : Value → Except ConvertFault Float
  | .float x => .ok x
  | .flag b => .ok (if b then 1 else 0)
  | .int n => match Validation.doubleOf? n with
    | some x => .ok x
    | none => .error .hugeNumber
  | .text s => match (dropGroupMarks (cleaned s.toList)).bind decimal? with
    | some x => .ok x
    | none => .error (.badNumber s)
  | v => .error (.notNumber v.kindName)

/-- The text of a value, if its whole numbers can be written. -/
def text (v : Value) : Except ConvertFault String :=
  if v.isWritable then .ok v.display else .error .unwritableWhole

def texts : List Value → Except ConvertFault (List String)
  | [] => .ok []
  | v :: rest => match text v, texts rest with
    | .ok s, .ok ss => .ok (s :: ss)
    | .error f, _ | _, .error f => .error f

/-- Anything that is not one of the four words of assent counts as no. -/
def flag : Value → Except ConvertFault Bool
  | .flag b => .ok b
  | v => (text v).map fun s => ["true", "1", "yes", "on"].contains (lower (trim s))

def folder : Value → Except ConvertFault Path
  | .text s => .ok (Path.ofText s)
  | .moment t => .error (.notPath t.kindName)
  | v => .error (.notPath v.kindName)

/-- Text is a comma-separated list; an object gives its names. -/
def names : Value → Except ConvertFault (List String)
  | .text s => .ok (commaList s)
  | .list items => texts items
  | .object fields => .ok (fields.map (·.1))
  | v => .error (.notIterable v.kindName)

/-- Converts a value to a kind. -/
def value : (kind : Kind) → Value → Except ConvertFault kind.Carrier
  | .flag, v => flag v
  | .count, v => count v
  | .seconds, v => seconds v
  | .folder, v => folder v
  | .names, v => names v
  | .text, v => text v

end Convert

namespace Settings

/-- Takes one named value over into the settings. -/
def take (s : Settings) (field : String × Value) : Except ConvertFault Settings :=
  match Key.ofName (lower field.1) with
  | none => .ok s
  | some k => match Convert.value k.kind field.2 with
    | .ok v => .ok (s.assign k v)
    | .error f => .error f

def takeAll (s : Settings) : List (String × Value) → Except ConvertFault Settings
  | [] => .ok s
  | field :: rest => match s.take field with
    | .ok s => s.takeAll rest
    | .error f => .error f

/-- The standard settings with the given values taken over. -/
def ofFields (fields : List (String × Value)) : Except ConvertFault Settings :=
  standard.takeAll fields

end Settings
end Rehearsal
