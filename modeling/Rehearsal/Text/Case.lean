/-!
Lower and upper case as far as ASCII can tell. The capital letters A to Z and the Kelvin sign are
all the characters whose lower case is an ASCII letter on its own; the small letters, the long s,
the dotless i and the ligatures are all those whose upper case is ASCII. The rest stay as they are,
so comparing the result with an ASCII word decides what full case mapping would.
-/
namespace Rehearsal.Text

def lowerChar (c : Char) : Char := if c == '\u212a' then 'k' else c.toLower

def lower (s : String) : String := String.ofList (s.toList.map lowerChar)

/-- The upper case of a character; a ligature has several letters. -/
def upperLetters (c : Char) : List Char :=
  if c == 'ſ' then ['S']
  else if c == 'ı' then ['I']
  else if c == 'ß' then ['S', 'S']
  else if c == '\ufb00' then ['F', 'F']
  else if c == '\ufb01' then ['F', 'I']
  else if c == '\ufb02' then ['F', 'L']
  else if c == '\ufb03' then ['F', 'F', 'I']
  else if c == '\ufb04' then ['F', 'F', 'L']
  else if c == '\ufb05' || c == '\ufb06' then ['S', 'T']
  else [c.toUpper]

def upper (s : String) : String := String.ofList (s.toList.flatMap upperLetters)

example : ['p', 'o', '\ufb06', 'É'].flatMap upperLetters = ['P', 'O', 'S', 'T', 'É'] := by decide
example : ['A', 'z', '\u212a', 'É'].map lowerChar = ['a', 'z', 'k', 'É'] := by decide

end Rehearsal.Text
