import Rehearsal.Toml.Text
import Rehearsal.Toml.Fault
import Rehearsal.Value
/-!
Numbers, dates and times in TOML documents. Whole numbers may be hexadecimal, octal or binary;
single underscores may stand between digits. Only decimal whole numbers are limited in length.
-/
namespace Rehearsal.Toml
open Rehearsal.Decimal
open Rehearsal.Text (Reader hexValue?)

/-- Digits of a class, with single underscores between them left out. -/
def groupedFrom (ok : Char → Bool) : List Char → List Char × List Char
  | [] => ([], [])
  | c :: rest =>
    if ok c then
      let (ds, after) := groupedFrom ok rest
      (c :: ds, after)
    else if c == '_' && rest.head?.any ok then groupedFrom ok rest
    else ([], c :: rest)

/-- At least one digit, which comes first. -/
def grouped (ok : Char → Bool) (s : List Char) : Option (List Char × List Char) :=
  if s.head?.any ok then some (groupedFrom ok s) else none

def inBase (base : Nat) (ds : List Char) : Nat :=
  ds.foldl (fun n c => base * n + (hexValue? c).getD 0) 0

/-- A whole number with the mark of its base. -/
def based : Reader Value
  | '0' :: mark :: rest =>
    let read (base : Nat) : Option (Value × List Char) :=
      (grouped (fun c => (hexValue? c).any (· < base)) rest).map
        fun (ds, rest) => (.int (inBase base ds), rest)
    if mark == 'x' then read 16 else if mark == 'b' then read 2 else if mark == 'o' then read 8
    else none
  | _ => none

def sign : List Char → List Char × List Char
  | '+' :: rest => (['+'], rest)
  | '-' :: rest => (['-'], rest)
  | s => ([], s)

/-- The whole part of a decimal number: zero alone, or digits that do not start with zero. -/
def wholePart : Reader (List Char)
  | '0' :: rest => some (['0'], rest)
  | s => grouped isDigit s

def fractionPart (s : List Char) : List Char × List Char :=
  match s with
  | '.' :: rest => match grouped isDigit rest with
    | some (ds, rest) => ('.' :: ds, rest)
    | none => ([], s)
  | _ => ([], s)

def exponentPart (s : List Char) : List Char × List Char :=
  match s with
  | c :: rest =>
    if c == 'e' || c == 'E' then
      let (sg, rest) := sign rest
      match grouped isDigit rest with
      | some (ds, rest) => ('e' :: sg ++ ds, rest)
      | none => ([], s)
    else ([], s)
  | [] => ([], s)

/-- A decimal number in its parts. -/
structure Numeral where
  sign : List Char
  whole : List Char
  fraction : List Char
  power : List Char

def numeral : Reader Numeral := fun s =>
  let (sign, rest) := sign s
  (wholePart rest).map fun (whole, rest) =>
    let (fraction, rest) := fractionPart rest
    let (power, rest) := exponentPart rest
    ({ sign, whole, fraction, power }, rest)

/-- Without a fraction and an exponent it is a whole number. -/
def Numeral.value (n : Numeral) : Except Fault Value :=
  if !n.fraction.isEmpty || !n.power.isEmpty then
    expected ((decimal? (n.sign ++ n.whole ++ n.fraction ++ n.power)).map .float)
  else if digitLimit < n.whole.length then .error (.longWhole n.whole.length)
  else expected ((whole? (n.sign ++ n.whole)).map .int)

/-- Infinity and not-a-number, with or without a sign. -/
def special : Reader Value := fun s =>
  let (sg, rest) := sign s
  let word := rest.take 3
  if word = ['i', 'n', 'f'] ∨ word = ['n', 'a', 'n'] then
    (decimal? (sg ++ word)).map fun x => (.float x, rest.drop 3)
  else none

def number (s : List Char) : Except Fault (Value × List Char) :=
  match based s, numeral s with
  | some found, _ => .ok found
  | none, some (n, rest) => n.value.map (·, rest)
  | none, none => expected (special s)

/-! Dates and times -/

/-- Exactly so many digits, as a number within bounds. -/
def fixedNumber (width low high : Nat) : Reader Nat := fun s =>
  let ds := s.take width
  let n := digitsValue ds
  if ds.length = width ∧ ds.all isDigit ∧ low ≤ n ∧ n ≤ high then some (n, s.drop width) else none

def mark (c : Char) : Reader Unit
  | d :: rest => if c == d then some ((), rest) else none
  | [] => none

def datePart : Reader (Nat × Nat × Nat) := fun s => do
  let (year, s) ← fixedNumber 4 0 9999 s
  let ((), s) ← mark '-' s
  let (month, s) ← fixedNumber 2 1 12 s
  let ((), s) ← mark '-' s
  let (day, s) ← fixedNumber 2 1 31 s
  return ((year, month, day), s)

/-- The fraction of a second to six places; further digits are dropped. -/
def secondFraction (s : List Char) : Nat × List Char :=
  match s with
  | '.' :: rest =>
    let (ds, after) := rest.span isDigit
    if ds.isEmpty then (0, s)
    else
      let six := ds.take 6
      (digitsValue six * Nat.pow 10 (6 - six.length), after)
  | _ => (0, s)

def timePart : Reader TimeOfDay := fun s => do
  let (hour, s) ← fixedNumber 2 0 23 s
  let ((), s) ← mark ':' s
  let (minute, s) ← fixedNumber 2 0 59 s
  let ((), s) ← mark ':' s
  let (second, s) ← fixedNumber 2 0 59 s
  let (micros, s) := secondFraction s
  return ({ hour, minute, second, micros }, s)

/-- A distance from universal time in minutes, which may be missing. -/
def offsetPart (s : List Char) : Option Int × List Char :=
  let span (rest : List Char) : Option (Nat × List Char) := do
    let (hour, rest) ← fixedNumber 2 0 23 rest
    let ((), rest) ← mark ':' rest
    let (minute, rest) ← fixedNumber 2 0 59 rest
    return (60 * hour + minute, rest)
  match s with
  | 'Z' :: rest | 'z' :: rest => (some 0, rest)
  | '+' :: rest => match span rest with
    | some (n, rest) => (some n, rest)
    | none => (none, s)
  | '-' :: rest => match span rest with
    | some (n, rest) => (some (-(n : Int)), rest)
    | none => (none, s)
  | _ => (none, s)

def daysInMonth (year month : Nat) : Nat :=
  if month = 2 then (if year % 4 = 0 ∧ (year % 100 ≠ 0 ∨ year % 400 = 0) then 29 else 28)
  else if month = 4 ∨ month = 6 ∨ month = 9 ∨ month = 11 then 30
  else 31

/-- The time and the offset that may come after a date. -/
def afterDate : Reader (TimeOfDay × Option Int)
  | c :: rest =>
    if c == 'T' || c == 't' || c == ' ' then
      (timePart rest).map fun (time, rest) =>
        let (offset, rest) := offsetPart rest
        ((time, offset), rest)
    else none
  | [] => none

/-- A date or a time. The outer option is empty when neither stands here, the inner one when the
date is not in the calendar. -/
def moment (s : List Char) : Option (Option (Value × List Char)) :=
  match datePart s with
  | some ((year, month, day), rest) =>
    if year = 0 ∨ daysInMonth year month < day then some none
    else
      let date : Date := ⟨year, month, day⟩
      some <| some <| match afterDate rest with
        | some ((time, offset), rest) => (.moment (.dateTime date time offset), rest)
        | none => (.moment (.date date), rest)
  | none => (timePart s).map fun (time, rest) => some (.moment (.time time), rest)

end Rehearsal.Toml
