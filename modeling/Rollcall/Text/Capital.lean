/-!
# Capitals

The capitals of the characters whose capital is an ASCII letter: the small ASCII letters, the dotless i and the long s.
That is enough to compare a text with a name in capital ASCII letters.  (A ligature also has ASCII capitals, two or
three of them, but no name in use holds those side by side.)
-/

namespace Rollcall.Text

/-- The capital of a character, if it is an ASCII letter; another character stands for itself. -/
def capital (c : Char) : Char :=
  if c = 'ı' then 'I'
  else if c = 'ſ' then 'S'
  else c.toUpper

/-- A text in capitals. -/
def capitals (cs : List Char) : List Char :=
  cs.map capital

end Rollcall.Text
