import Ascent.Yaml.Cursor

/-!
# White space inside scalars

Inside a plain or a quoted scalar, white space on one line is kept, while a
line end becomes a space and further line ends are kept as they are.  `Gap`
collects the white space between two words of a scalar and `Gap.fold` is what
remains of it.
-/

namespace Ascent.Yaml

/-- The white space between two words of a scalar. -/
structure Gap where
  /-- The blanks before the first line end, in reverse. -/
  blanks : List Char
  /-- The first line end. -/
  first : Option Char
  /-- The further line ends, in reverse. -/
  further : List Char
  /-- Whether a line was left, by a line end or by an escaped one. -/
  broken : Bool

namespace Gap

/-- No white space at all. -/
def none : Gap :=
  ⟨[], Option.none, [], false⟩

/-- What a gap contributes to the value of the scalar. -/
def fold (gap : Gap) : List Char :=
  if gap.broken then
    match gap.first with
    | some '\n' => if gap.further.isEmpty then [' '] else gap.further.reverse
    | some c => c :: gap.further.reverse
    | Option.none => gap.further.reverse
  else gap.blanks.reverse

/-- Read white space.  `allowed` decides about blanks after a line end, by their
column; a tab that is not allowed ends in failure.  The first argument bounds
the number of characters. -/
def scan (allowed : Nat → Char → Bool) : Nat → Gap → Cursor → Option (Gap × Cursor)
  | 0, gap, cursor => some (gap, cursor)
  | fuel + 1, gap, cursor => do
      let cursor ← cursor.need 1
      match cursor.rest with
      | [] => return (gap, cursor)
      | c :: _ =>
          if isSpace c then
            if gap.broken then
              if allowed cursor.column c then scan allowed fuel gap (cursor.skip 1)
              else Option.none
            else scan allowed fuel { gap with blanks := c :: gap.blanks } (cursor.skip 1)
          else if isBreak c then
            let (mark, after) ← cursor.lineEnd?
            if gap.broken then
              scan allowed fuel { gap with further := mark :: gap.further } after
            else
              scan allowed fuel ⟨[], some mark, [], true⟩ after
          else return (gap, cursor)

end Gap

end Ascent.Yaml
