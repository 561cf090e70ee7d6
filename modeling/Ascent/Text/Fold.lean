/-!
# Text without case

A text equals an ASCII text without regard to case when their folded forms are
equal.  Besides the ASCII letters themselves, only the long s and the kelvin
sign are the same as an ASCII letter in another case, so other characters are
their own folded form here.
-/

namespace Ascent.Text

/-- The small ASCII letter that a character is in another case, or the character
itself. -/
def foldChar (c : Char) : Char :=
  if c == 'ſ' then 's' else if c == '\u212a' then 'k' else c.toLower

/-- The form of a text that does not show case. -/
def fold (text : String) : String :=
  String.ofList (text.toList.map foldChar)

end Ascent.Text
