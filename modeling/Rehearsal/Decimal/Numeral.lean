import Rehearsal.Text.Blank
import Rehearsal.Text.Digit
import Rehearsal.Text.Case
/-!
Reading numerals. A decimal numeral is an optional sign, then digits with an optional point among
them or at either end and an optional exponent, or one of the words `inf`, `infinity` and `nan` in
any case. Which blanks, underscores and digit scripts are let through differs between callers, so
each caller cleans the text first.
-/
namespace Rehearsal.Decimal
open Rehearsal.Text

def isDigit (c : Char) : Bool := '0' ≤ c && c ≤ '9'

def digitsValue (ds : List Char) : Nat :=
  ds.foldl (fun n c => 10 * n + (c.toNat - 48)) 0

/-- The double nearest to `digits * 10 ^ exponent`. Exponents far outside the range of doubles are
settled by the number of digits alone. -/
def nearest (digits : Nat) (exponent : Int) : Float :=
  if digits = 0 then 0
  else
    let size := exponent + (Nat.log2 digits : Int) * 30103 / 100000
    if 400 < size then 1 / 0
    else if size < -400 then 0
    else if 0 ≤ exponent then Float.ofScientific digits false exponent.toNat
    else Float.ofScientific digits true (-exponent).toNat

/-- An exponent: a sign and at least one digit, to the end of the text. -/
def exponent? (s : List Char) : Option Int :=
  let (negative, ds) := match s with
    | '-' :: r => (true, r)
    | '+' :: r => (false, r)
    | r => (false, r)
  if ds.isEmpty || !ds.all isDigit then none
  else
    let n : Int := digitsValue ds
    some (if negative then -n else n)

/-- Digits with a point and an exponent, without a sign. -/
def unsigned? (s : List Char) : Option Float :=
  let (whole, rest) := s.span isDigit
  let (fraction, rest) := match rest with
    | '.' :: r => r.span isDigit
    | r => ([], r)
  if whole.isEmpty && fraction.isEmpty then none
  else
    let value (e : Int) := nearest (digitsValue (whole ++ fraction)) (e - fraction.length)
    match rest with
    | [] => some (value 0)
    | c :: r => if c == 'e' || c == 'E' then (exponent? r).map value else none

def word? (s : List Char) : Option Float :=
  let w := String.ofList (s.map Char.toLower)
  if w = "inf" || w = "infinity" then some (1 / 0) else if w = "nan" then some (0 / 0) else none

/-- Reads a decimal numeral written in ASCII. -/
def decimal? (s : List Char) : Option Float :=
  match s with
  | '-' :: r => ((unsigned? r).or (word? r)).map (-·)
  | '+' :: r => (unsigned? r).or (word? r)
  | r => (unsigned? r).or (word? r)

/-- Drops underscores that stand between two digits; any other underscore is refused. -/
def dropGroupMarks : List Char → Option (List Char)
  | [] => some []
  | [c] => if c == '_' then none else some [c]
  | c :: d :: rest =>
    if c == '_' then none
    else if d == '_' then
      match rest with
      | e :: _ => if isDigit c && isDigit e then (dropGroupMarks rest).map (c :: ·) else none
      | [] => none
    else (dropGroupMarks (d :: rest)).map (c :: ·)

/-- Digits of any script become ASCII digits, blanks become spaces. -/
def asciiDigits (s : List Char) : List Char :=
  s.map fun c => match digitValue? c with
    | some n => Char.ofNat (48 + n)
    | none => if isBlank c then ' ' else c

/-- Digits only, at least one. -/
def natural? (ds : List Char) : Option Nat :=
  if ds.isEmpty || !ds.all isDigit then none else some (digitsValue ds)

/-- A whole numeral: a sign and digits. -/
def whole? (s : List Char) : Option Int :=
  match s with
  | '-' :: r => (natural? r).map fun n => -(n : Int)
  | '+' :: r => (natural? r).map Int.ofNat
  | r => (natural? r).map Int.ofNat

example : whole? ['-', '0', '7'] = some (-7) := by decide
example : dropGroupMarks ['1', '_', '0'] = some ['1', '0'] := by decide
example : dropGroupMarks ['1', '_', '_', '0'] = none := by decide

end Rehearsal.Decimal
