import Ascent.Yaml.Lexeme.Folding

/-!
# Quoted scalars

Between single quotes, a quote is written twice and nothing else is special.
Between double quotes, a backslash starts an escape; an escaped line end joins
two lines without a space.
-/

namespace Ascent.Yaml

namespace Quoted

/-- The character that a short escape stands for. -/
def escaped? : Char → Option Char
  | '0' => some '\x00'
  | 'a' => some '\x07'
  | 'b' => some '\x08'
  | 't' => some '\t'
  | '\t' => some '\t'
  | 'n' => some '\n'
  | 'v' => some '\x0b'
  | 'f' => some '\x0c'
  | 'r' => some '\r'
  | 'e' => some '\x1b'
  | ' ' => some ' '
  | '\x22' => some '\x22'
  | '\x27' => some '\x27'
  | '\\' => some '\\'
  | 'N' => some '\u0085'
  | '_' => some '\u00a0'
  | 'L' => some '\u2028'
  | 'P' => some '\u2029'
  | _ => none

/-- The number of hexadecimal digits of a long escape. -/
def codeLength? : Char → Option Nat
  | 'x' => some 2
  | 'u' => some 4
  | 'U' => some 8
  | _ => none

/-- The number written by hexadecimal digits. -/
def hexNumber? (digits : List Char) : Option Nat :=
  digits.foldlM (fun number c => (number * 16 + ·) <$> hexDigit? c) 0

/-- The character with a code, unless the code is a surrogate or too large. -/
def character? (code : Nat) : Option Char :=
  if (0xd800 ≤ code ∧ code ≤ 0xdfff) ∨ 0x10ffff < code then none else some (Char.ofNat code)

/-- Read the character of an escape, behind the backslash and the character
that selects it. -/
def escape? (mark : Char) (cursor : Cursor) : Option (Char × Cursor) :=
  match escaped? mark with
  | some c => some (c, cursor)
  | none => do
      let count ← codeLength? mark
      let cursor ← cursor.need count
      let digits := cursor.rest.take count
      if digits.length < count then none
      else
        let c ← character? (← hexNumber? digits)
        return (c, cursor.skip count)

/-- Read characters up to the next blank or the closing quote.  The result tells
whether it stopped behind an escaped line end. -/
def word (single : Bool) :
    Nat → (value : List Char) → Cursor → Option (List Char × Bool × Cursor)
  | 0, value, cursor => some (value, false, cursor)
  | fuel + 1, value, cursor =>
      match cursor.rest with
      | [] => some (value, false, cursor)
      | c :: rest =>
          if isSpace c || isBreak c then some (value, false, cursor)
          else if single then
            if c == '\x27' then
              if rest.head? == some '\x27' then do
                word single fuel ('\x27' :: value) (← (cursor.skip 2).need 2)
              else some (value, false, cursor)
            else do word single fuel (c :: value) (← (cursor.skip 1).need 2)
          else if c == '\x22' then some (value, false, cursor)
          else if c == '\\' then
            match rest with
            | [] => none
            | mark :: _ =>
                if isBreak mark then do
                  let cursor ← cursor.need 3
                  let (_, after) ← (cursor.skip 1).lineEnd?
                  return (value, true, after)
                else do
                  let (c, after) ← escape? mark (cursor.skip 2)
                  word single fuel (c :: value) (← after.need 2)
          else do word single fuel (c :: value) (← (cursor.skip 1).need 2)

/-- Read words and the gaps between them up to the closing quote. -/
def scan (single : Bool) : Nat → (value : List Char) → Cursor → Option (List Char × Cursor)
  | 0, _, _ => none
  | fuel + 1, value, cursor => do
      let cursor ← cursor.need 4
      if cursor.atDocumentMarker || cursor.rest.isEmpty then none
      else
        let (value, joined, after) ← word single (cursor.rest.length + 1) value cursor
        let after ← after.need 1
        if after.rest.head? == some (if single then '\x27' else '\x22') then
          return (value, after.skip 1)
        else
          let gap : Gap := ⟨[], none, [], joined⟩
          let (gap, after) ← Gap.scan (fun _ _ => true) (after.rest.length + 1) gap after
          scan single fuel (gap.fold.reverse ++ value) after

end Quoted

/-- Read a quoted scalar that starts at its opening quote. -/
def Cursor.quoted? (cursor : Cursor) (single : Bool) : Option (String × Cursor) := do
  let (value, after) ← Quoted.scan single (cursor.rest.length + 1) [] (cursor.skip 1)
  return (String.ofList value.reverse, after)

end Ascent.Yaml
