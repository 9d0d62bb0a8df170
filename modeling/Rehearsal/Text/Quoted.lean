import Rehearsal.Text.Printable
/-!
Quoted text. Single quotes unless the text holds a single quote and no double one; the quote and
the backslash are escaped, tabs and line ends have letters, and every other unprintable character
is spelled by its code point in two, four or eight hexadecimal digits.
-/
namespace Rehearsal.Text

def hexPadded (width : Nat) (n : Nat) : List Char :=
  let ds := Nat.toDigits 16 n
  List.replicate (width - ds.length) '0' ++ ds

/-- The form of one character inside quotes of the given kind. -/
def escapeChar (quote c : Char) : List Char :=
  if c == quote || c == '\\' then ['\\', c]
  else if c == '\t' then ['\\', 't']
  else if c == '\n' then ['\\', 'n']
  else if c == '\r' then ['\\', 'r']
  else if isPrintable c then [c]
  else if c.toNat < 0x100 then '\\' :: 'x' :: hexPadded 2 c.toNat
  else if c.toNat < 0x10000 then '\\' :: 'u' :: hexPadded 4 c.toNat
  else '\\' :: 'U' :: hexPadded 8 c.toNat

def quoteFor (s : List Char) : Char :=
  if s.contains '\'' && !s.contains '"' then '"' else '\''

/-- The text in quotes. -/
def quoted (s : String) : String :=
  let cs := s.toList
  let q := quoteFor cs
  String.ofList (q :: cs.flatMap (escapeChar q) ++ [q])

example : quoteFor ['i', 't', '\'', 's'] = '"' := by decide
example : escapeChar '\'' '\x7f' = ['\\', 'x', '7', 'f'] := by decide

end Rehearsal.Text
