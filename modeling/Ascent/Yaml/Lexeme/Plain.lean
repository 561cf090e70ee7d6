import Ascent.Yaml.Lexeme.Folding

/-!
# Plain scalars

A scalar without quotes.  It ends before `: `, before a comment, at a document
marker, in the flow context at an indicator, and in the block context at a line
that is indented too little.
-/

namespace Ascent.Yaml

namespace Plain

/-- The indicators that end a plain scalar inside a flow collection. -/
def isFlowIndicator (c : Char) : Bool :=
  c == ',' || c == '?' || c == '[' || c == ']' || c == '\x7b' || c == '\x7d'

/-- The characters up to the next blank or to the end of the scalar. -/
def word (flow : Bool) : List Char → List Char
  | [] => []
  | c :: rest =>
      if isSpace c || isBreak c then []
      else if c == ':' && startsBlank rest then []
      else if flow && isFlowIndicator c then []
      else c :: word flow rest

/-- Read words and the gaps between them.  `indent` is the least column of a
continuation line; `value` is the value so far, in reverse; `gap` stands before
the next word.  The result tells whether the scalar ended after a line end. -/
def scan (flow : Bool) (indent : Nat) :
    Nat → (value : List Char) → Gap → Cursor → Option (List Char × Bool × Cursor)
  | 0, value, gap, cursor => some (value, gap.broken, cursor)
  | fuel + 1, value, gap, cursor => do
      let cursor ← cursor.need 4
      if cursor.atDocumentMarker || cursor.rest.head? == some '#' then
        return (value, gap.broken, cursor)
      else
        let next := word flow cursor.rest
        let after ← cursor.pass 2 next.length
        let (value, gap) :=
          if next.isEmpty then (value, gap)
          else (next.reverse ++ gap.fold.reverse ++ value, Gap.none)
        match after.rest with
        | [] => return (value, gap.broken, after)
        | c :: _ =>
            if isSpace c || isBreak c then
              let allowed (column : Nat) (c : Char) : Bool := indent ≤ column || c != '\t'
              let (gap, after) ← Gap.scan allowed (after.rest.length + 1) gap after
              if !flow && after.column < indent then return (value, gap.broken, after)
              else scan flow indent fuel value gap after
            else return (value, gap.broken, after)

end Plain

/-- Read a plain scalar: its text, whether it ended after a line end, and the
cursor behind it. -/
def Cursor.plain? (cursor : Cursor) (flow : Bool) (indent : Nat) :
    Option (String × Bool × Cursor) := do
  let (value, broken, after) ←
    Plain.scan flow indent (cursor.rest.length + 1) [] Gap.none cursor
  return (String.ofList value.reverse, broken, after)

end Ascent.Yaml
