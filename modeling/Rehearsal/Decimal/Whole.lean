import Rehearsal.Decimal.Numeral
/-!
Whole numbers as people write them: white space around, digits of any script, a sign, and single
underscores between digits. A numeral has at most 4300 digits, both when it is read and when it is
written; neither the sign nor the underscores count.
-/
namespace Rehearsal.Decimal
open Rehearsal.Text

/-- The most digits of a numeral. -/
def digitLimit : Nat := 4300

/-- The first whole number with too many digits. -/
def writingBound : Nat := Nat.pow 10 digitLimit

/-- Has the number few enough digits to be written? -/
def isWritable (n : Int) : Bool := n.natAbs < writingBound

/-- What is said when there are too many digits. They are counted only when they are read. -/
def limitText (digits : Option Nat) : String :=
  let counted := match digits with
    | some n => ": value has " ++ toString n ++ " digits"
    | none => ""
  "Exceeds the limit (" ++ toString digitLimit ++ " digits) for integer string conversion" ++
    counted ++ "; use sys.set_int_max_str_digits() to increase the limit"

inductive WholeFault where
  | unreadable
  | tooLong (digits : Nat)
deriving Repr, DecidableEq

/-- White space goes from both ends, and digits of any script become ASCII digits. -/
def cleaned (s : List Char) : List Char := asciiDigits (trimChars isWhite s)

def dropSign : List Char → List Char
  | '+' :: rest | '-' :: rest => rest
  | s => s

/-- How many digits stand in front, group marks left out; none when a group mark is misplaced. -/
def leadingDigits (s : List Char) : Nat :=
  ((dropGroupMarks (s.takeWhile fun c => isDigit c || c == '_')).map List.length).getD 0

/-- Reads a whole number. Too many digits are refused before what follows them is looked at. -/
def readWhole (s : List Char) : Except WholeFault Int :=
  let cs := cleaned s
  let digits := leadingDigits (dropSign cs)
  if digitLimit < digits then .error (.tooLong digits)
  else match (dropGroupMarks cs).bind whole? with
    | some n => .ok n
    | none => .error .unreadable

example : (readWhole [' ', '-', '1', '_', '0']).toOption = some (-10) := by decide
example : (readWhole ['1', '_', '_', '0']).toOption = none := by decide
example : leadingDigits ['1', '_', '0', 'x'] = 2 := by decide

end Rehearsal.Decimal
