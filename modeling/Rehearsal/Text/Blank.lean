/-!
Blank characters and trimming. A blank is white space or one of the four information separators
(code points 28 to 31); `isWhite` leaves those four out.
-/
namespace Rehearsal.Text

/-- White space of every script. -/
def isWhite (c : Char) : Bool :=
  let n := c.toNat
  (9 ≤ n && n ≤ 13) || n == 32 || n == 0x85 || n == 0xA0 || n == 0x1680 ||
    (0x2000 ≤ n && n ≤ 0x200A) || n == 0x2028 || n == 0x2029 || n == 0x202F || n == 0x205F ||
    n == 0x3000

def isBlank (c : Char) : Bool := isWhite c || (28 ≤ c.toNat && c.toNat ≤ 31)

/-- Drops the characters in a class from both ends. -/
def trimChars (drop : Char → Bool) (s : List Char) : List Char :=
  ((s.dropWhile drop).reverse.dropWhile drop).reverse

def trimWhere (drop : Char → Bool) (s : String) : String :=
  String.ofList (trimChars drop s.toList)

/-- Drops the blanks at both ends. -/
def trim (s : String) : String := trimWhere isBlank s

example : trimChars isBlank [' ', 'a', ' ', 'b', '\t'] = ['a', ' ', 'b'] := by decide

end Rehearsal.Text
