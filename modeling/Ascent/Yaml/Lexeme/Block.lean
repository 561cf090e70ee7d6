import Ascent.Yaml.Cursor

/-!
# Block scalars

A block scalar is introduced by `|` or `>` and holds the following lines that
are indented enough.  After `|` line ends are kept; after `>` a single line end
between two lines of text becomes a space.  The header may fix the indentation
and may ask to strip or to keep the line ends at the end.
-/

namespace Ascent.Yaml

namespace Block

/-- What happens to the line ends behind the last line. -/
inductive Chomping where
  | strip
  | clip
  | keep
deriving DecidableEq

/-- The chomping that an indicator asks for. -/
def chomping? : Char → Option Chomping
  | '+' => some .keep
  | '-' => some .strip
  | _ => none

/-- The indentation that a digit asks for; zero is refused. -/
def increment? (c : Char) : Option Nat :=
  if c.isDigit && c != '0' then some (c.toNat - '0'.toNat) else none

/-- Read the indicators behind `|` or `>`, in either order. -/
def header? (cursor : Cursor) : Option (Chomping × Option Nat × Cursor) := do
  let cursor ← cursor.need 1
  match cursor.rest with
  | [] => return (.clip, none, cursor)
  | a :: rest =>
      match chomping? a with
      | some chomping =>
          let cursor ← (cursor.skip 1).need 1
          match rest with
          | b :: _ =>
              if b.isDigit then return (chomping, some (← increment? b), cursor.skip 1)
              else return (chomping, none, cursor)
          | [] => return (chomping, none, cursor)
      | none =>
          if a.isDigit then
            let n ← increment? a
            let cursor ← (cursor.skip 1).need 1
            match rest.head?.bind chomping? with
            | some chomping => return (chomping, some n, cursor.skip 1)
            | none => return (.clip, some n, cursor)
          else return (.clip, none, cursor)

/-- Go over indentation and empty lines.  `indent` is the indentation of the
scalar if it is known; `deepest` is the largest column seen and `ends` the line
ends, in reverse.  A tab in the indentation is refused. -/
def skipEmpty (indent : Option Nat) :
    Nat → (deepest : Nat) → (ends : List Char) → Cursor → Option (Nat × List Char × Cursor)
  | 0, deepest, ends, cursor => some (deepest, ends, cursor)
  | fuel + 1, deepest, ends, cursor => do
      let cursor ← cursor.need 1
      let spaces := (cursor.rest.takeWhile (· == ' ')).length
      let cursor ←
        match indent with
        | some n => cursor.pass 1 (min spaces (n - cursor.column))
        | none => cursor.pass 1 spaces
      let deepest := max deepest cursor.column
      let inside :=
        match indent with
        | some n => cursor.column < n
        | none => true
      if inside && cursor.rest.head? == some '\t' then none
      else if cursor.atLineEnd then
        let (mark, after) ← cursor.lineEnd?
        skipEmpty indent fuel deepest (mark :: ends) after
      else return (deepest, ends, cursor)

/-- Read the lines of the scalar.  `value` is the value so far, in reverse;
`last` is the line end behind the last line and `ends` the empty lines behind
it, in reverse; `wasIndented` tells whether that line started with a blank. -/
def lines (literal : Bool) (indent : Nat) :
    Nat → (value : List Char) → (last : Option Char) → (ends : List Char) →
      (wasIndented : Bool) → Cursor → Option (List Char × Option Char × List Char × Cursor)
  | 0, value, last, ends, _, cursor => some (value, last, ends, cursor)
  | fuel + 1, value, last, ends, wasIndented, cursor =>
      match cursor.rest with
      | [] => some (value, last, ends, cursor)
      | c :: _ =>
          if cursor.column == indent then do
            let isIndented := isSpace c
            let folded := !literal && !wasIndented && !isIndented && last == some '\n'
            let joint : List Char :=
              if folded then (if ends.isEmpty then [' '] else []) else last.toList
            let (text, after) ← cursor.takeWhile (!isBreak ·)
            let value := text.reverse ++ ends ++ joint ++ value
            let after ← after.need 2
            let (last, after) ←
              if after.atLineEnd then do
                let (mark, next) ← after.lineEnd?
                pure (some mark, next)
              else pure (none, after)
            let (_, ends, after) ← skipEmpty (some indent) (after.rest.length + 1) 0 [] after
            lines literal indent fuel value last ends isIndented after
          else some (value, last, ends, cursor)

end Block

/-- Read a block scalar that starts at its indicator; `indent` is the
indentation of the surrounding block, −1 outside all blocks. -/
def Cursor.block? (cursor : Cursor) (literal : Bool) (indent : Int) :
    Option (String × Cursor) := do
  let (chomping, increment, after) ← Block.header? (cursor.skip 1)
  let after ← after.skipLine?
  let known := increment.map fun n => (max indent 0).toNat + n
  let (deepest, ends, after) ← Block.skipEmpty known (after.rest.length + 1) 0 [] after
  let width := known.getD (max deepest (max (indent + 1).toNat 1))
  let (value, last, ends, after) ←
    Block.lines literal width (after.rest.length + 1) [] none ends false after
  let value := if chomping == .strip then value else last.toList ++ value
  let value := if chomping == .keep then ends ++ value else value
  return (String.ofList value.reverse, after)

end Ascent.Yaml
