import Ascent.Solution
import Ascent.Text.Blank

/-!
# Reading solutions

A solution is written as its digits.  White space around the text, one bracket
at either end, and spaces and commas between the digits are ignored; the
brackets need not match.  Anything else is refused, and the message names the
first such character and the number of bytes before it.
-/

namespace Ascent.Solution

/-- Drop one opening bracket at the front. -/
def dropOpening : List Char → List Char
  | '[' :: rest => rest
  | cs => cs

/-- Drop one closing bracket at the end. -/
def dropClosing (cs : List Char) : List Char :=
  if cs.getLast? = some ']' then cs.dropLast else cs

/-- The part of a text that holds the digits. -/
def core (text : String) : List Char :=
  dropClosing (dropOpening (Text.trimList text.toList))

/-- Read the digits from a byte offset on; `whole` is quoted in the complaint.  The
offset grows by the bytes of each character that is passed. -/
def readDigits (whole : String) : Nat → List Char → Except Error (List Bool)
  | _, [] => .ok []
  | offset, c :: rest =>
      match c with
      | '0' => (false :: ·) <$> readDigits whole (offset + c.utf8Size) rest
      | '1' => (true :: ·) <$> readDigits whole (offset + c.utf8Size) rest
      | ' ' => readDigits whole (offset + c.utf8Size) rest
      | ',' => readDigits whole (offset + c.utf8Size) rest
      | other => .error (.of (.badCharacter other offset whole))

/-- Read a solution. -/
def parse (text : String) : Except Error Solution := do
  let inner := core text
  let whole := String.ofList inner
  let values ← readDigits whole 0 inner
  if values.isEmpty then
    .error (.of (.emptySolution whole))
  else
    return ofBools values

end Ascent.Solution
