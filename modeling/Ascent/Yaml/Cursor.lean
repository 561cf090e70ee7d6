import Ascent.Yaml.Chunk

/-!
# Positions in a YAML text

A cursor is the text still to be read together with the place where it starts:
the number of characters before it, its line and its column.  Lines end at a
line feed, a carriage return, both together, or at one of the three Unicode
line ends.

A cursor also knows how far the text ahead of it has been fetched.  Whoever
looks at characters asks for them with `need` first; that is the only way in
which a text is refused for a character that is not admitted.
-/

namespace Ascent.Yaml

/-! ## Character classes -/

/-- Spaces and tabs. -/
def isSpace (c : Char) : Bool :=
  c == ' ' || c == '\t'

/-- The characters that end a line. -/
def isBreak (c : Char) : Bool :=
  c == '\n' || c == '\r' || c == '\u0085' || c == '\u2028' || c == '\u2029'

/-- ASCII letters and digits, the underscore and the hyphen. -/
def isWord (c : Char) : Bool :=
  c.isAlphanum || c == '_' || c == '-'

/-- The value of a hexadecimal digit. -/
def hexDigit? (c : Char) : Option Nat :=
  if '0' ≤ c ∧ c ≤ '9' then some (c.toNat - '0'.toNat)
  else if 'a' ≤ c ∧ c ≤ 'f' then some (c.toNat - 'a'.toNat + 10)
  else if 'A' ≤ c ∧ c ≤ 'F' then some (c.toNat - 'A'.toNat + 10)
  else none

/-- The byte order mark. -/
def byteOrderMark : Char :=
  '\ufeff'

/-- Whether a list starts with a space, a tab or a line end, or is at its end. -/
def startsBlank : List Char → Bool
  | [] => true
  | c :: _ => isSpace c || isBreak c

/-! ## Cursors -/

/-- The text still to be read, the place where it starts, and how much of it
has been fetched. -/
structure Cursor where
  rest : List Char
  index : Nat
  line : Nat
  column : Nat
  /-- The number of characters at hand; the end of the text may be among them. -/
  ahead : Nat
  /-- The chunks that have not been fetched. -/
  chunks : List Chunk
  /-- Whether a byte order mark came next when the last chunk was fetched. -/
  marked : Bool
deriving Repr

namespace Cursor

/-- The beginning of a text.  A byte order mark at its front does not belong to
it, but has its place in the first chunk; an empty text is read as an empty
line. -/
def start (text : String) : Cursor :=
  match text.toList with
  | [] => front ['\n'] 0
  | c :: rest =>
      if c == byteOrderMark then front rest byteOrderMark.utf8Size else front (c :: rest) 0
where
  /-- The beginning of characters, with `used` bytes of the first chunk gone. -/
  front (cs : List Char) (used : Nat) : Cursor :=
    ⟨cs, 0, 0, 0, 0, Chunk.split .empty used cs, false⟩

/-- Have a number of characters at hand, by fetching chunks if there are too
few of them. -/
def need (cursor : Cursor) (count : Nat) : Option Cursor :=
  if count ≤ cursor.ahead then some cursor
  else do
    let (ahead, chunks) ← Chunk.fetch count cursor.ahead cursor.chunks
    return { cursor with ahead, chunks, marked := cursor.rest.head? == some byteOrderMark }

/-- Go on by a number of characters on the same line. -/
def skip (cursor : Cursor) (count : Nat) : Cursor :=
  { cursor with
    rest := cursor.rest.drop count
    index := cursor.index + count
    column := cursor.column + count
    ahead := cursor.ahead - count }

/-- Go on by a number of characters one by one, with `reach` characters at hand
after each of them. -/
def pass (reach : Nat) : (count : Nat) → Cursor → Option Cursor
  | 0, cursor => some cursor
  | count + 1, cursor => do pass reach count (← (cursor.skip 1).need reach)

/-- Go on as long as the characters are of a class. -/
def skipWhile (cursor : Cursor) (p : Char → Bool) : Option Cursor := do
  let cursor ← cursor.need 1
  cursor.pass 1 (cursor.rest.takeWhile p).length

/-- The characters of a class that come next, and the cursor after them. -/
def takeWhile (cursor : Cursor) (p : Char → Bool) : Option (List Char × Cursor) := do
  return (cursor.rest.takeWhile p, ← cursor.skipWhile p)

/-- Whether a line ends here. -/
def atLineEnd (cursor : Cursor) : Bool :=
  match cursor.rest with
  | c :: _ => isBreak c
  | [] => false

/-- The line end that comes next, as it counts in a value, and the cursor after
it.  All line ends but the two Unicode separators count as a line feed.  It
fails where no line ends. -/
def lineEnd? (cursor : Cursor) : Option (Char × Cursor) := do
  let cursor ← cursor.need 2
  let next (count : Nat) : Cursor :=
    { cursor.skip count with line := cursor.line + 1, column := 0 }
  match cursor.rest with
  | '\r' :: '\n' :: _ => return ('\n', next 2)
  | c :: _ =>
      if isBreak c then
        return (if c == '\u2028' || c == '\u2029' then c else '\n', next 1)
      else none
  | [] => none

/-- Go over a comment up to the end of its line. -/
def skipComment (cursor : Cursor) : Option Cursor :=
  match cursor.rest with
  | '#' :: _ => cursor.skipWhile (!isBreak ·)
  | _ => some cursor

/-- Go over blanks, a comment and the end of the line; nothing else may stand on
the line. -/
def skipLine? (cursor : Cursor) : Option Cursor := do
  let cursor ← (← cursor.skipWhile isSpace).skipComment
  if cursor.atLineEnd then return (← cursor.lineEnd?).2
  else if cursor.rest.isEmpty then return cursor
  else none

/-- Whether a document marker made of three equal characters stands here: it is
at the front of a line and a blank follows it. -/
def atMarker (cursor : Cursor) (mark : Char) : Bool :=
  cursor.column == 0 &&
    match cursor.rest with
    | a :: b :: c :: rest => a == mark && b == mark && c == mark && startsBlank rest
    | _ => false

/-- Whether a document starts or ends here. -/
def atDocumentMarker (cursor : Cursor) : Bool :=
  cursor.atMarker '-' || cursor.atMarker '.'

end Cursor

end Ascent.Yaml
