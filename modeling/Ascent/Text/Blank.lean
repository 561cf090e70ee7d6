/-!
# White space

The characters that count as white space at the ends of a text, and trimming
by them.  The class is the Unicode property `White_Space`: it holds the six
ASCII blanks, the no-break space, the typographic spaces and the line and
paragraph separators.
-/

namespace Ascent.Text

/-- The characters with the Unicode property `White_Space`. -/
def isBlank (c : Char) : Bool :=
  let code := c.toNat
  (0x09 ≤ code && code ≤ 0x0d) || code == 0x20 || code == 0x85 || code == 0xa0 ||
    code == 0x1680 || (0x2000 ≤ code && code ≤ 0x200a) || code == 0x2028 || code == 0x2029 ||
    code == 0x202f || code == 0x205f || code == 0x3000

/-- Drop the blank characters at both ends of a list of characters. -/
def trimList (cs : List Char) : List Char :=
  ((cs.dropWhile isBlank).reverse.dropWhile isBlank).reverse

/-- Drop the white space at both ends of a text. -/
def trim (text : String) : String :=
  String.ofList (trimList text.toList)

end Ascent.Text
