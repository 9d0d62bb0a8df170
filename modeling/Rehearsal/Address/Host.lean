import Rehearsal.Text.Cut
import Rehearsal.Decimal.Numeral
/-!
Numeric hosts. A version 4 address is four decimal numbers below 256; a version 6 address is eight
groups of up to four hexadecimal digits, of which one run may be left out as `::` and the last two
may be written as a version 4 address, with an optional scope after a percent sign.
-/
namespace Rehearsal.Address
open Rehearsal.Text

def isHex (c : Char) : Bool := (hexValue? c).isSome

/-- A number below 256 without leading zeros. -/
def isOctet (s : List Char) : Bool :=
  !s.isEmpty && s.all Decimal.isDigit && s.length ≤ 3 && (s == ['0'] || s.head? != some '0') &&
    Decimal.digitsValue s ≤ 255

def isVersion4 (s : List Char) : Bool :=
  let parts := pieces '.' s
  parts.length == 4 && parts.all isOctet

def isGroup (s : List Char) : Bool := !s.isEmpty && s.length ≤ 4 && s.all isHex

/-- The groups of a version 6 address, a version 4 address at the end counting as two of them. -/
def groups? (s : List Char) : Option (List (List Char)) :=
  let parts := pieces ':' s
  let last := parts.getLast?.getD []
  if parts.length < 3 then none
  else if last.contains '.' then
    if isVersion4 last then some (parts.dropLast ++ [['0'], ['0']]) else none
  else some parts

/-- Are these groups a whole address? At most one run is left out, for at least one group. -/
def fillAddress (parts : List (List Char)) : Bool :=
  let inner := parts.tail.dropLast
  match inner.findIdx? (·.isEmpty) with
  | none => parts.length == 8 && parts.all isGroup
  | some i =>
    let before := parts.take (i + 1)
    let after := parts.drop (i + 2)
    let high := if before.head? == some [] then before.tail else before
    let low := if after.getLast? == some [] then after.dropLast else after
    (before.head? != some [] || high.isEmpty) && (after.getLast? != some [] || low.isEmpty) &&
      high.all isGroup && low.all isGroup && high.length + low.length < 8

def scopeIsGood (s : List Char) : Bool :=
  match cutAt '%' s with
  | none => true
  | some (_, scope) => !scope.isEmpty && !scope.contains '%'

def isVersion6 (s : List Char) : Bool :=
  !s.contains '/' && scopeIsGood s &&
    match groups? (s.takeWhile (· != '%')) with
    | some parts => parts.length ≤ 9 && fillAddress parts
    | none => false

/-- A host of a later version: `v`, hexadecimal digits, a point and anything. -/
def isLaterVersion (s : List Char) : Bool :=
  match s with
  | 'v' :: rest => match rest.span isHex with
    | (_ :: _, '.' :: _ :: _) => true
    | _ => false
  | _ => false

end Rehearsal.Address
