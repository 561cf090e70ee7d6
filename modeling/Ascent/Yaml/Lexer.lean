import Ascent.Yaml.Lexeme.Block
import Ascent.Yaml.Lexeme.Plain
import Ascent.Yaml.Lexeme.Quoted
import Ascent.Yaml.Lexeme.Tag
import Ascent.Yaml.Token

/-!
# From text to tokens

A key need not be announced: only the `:` behind it shows that it was one.  The
lexer therefore keeps the tokens since the last possible key back, and puts a
`key` token (and the start of a mapping) in front of them when the `:` comes.
A possible key ends with its line and after 1024 characters.

`tokens` lists the tokens in the order in which they become certain.  If the
text cannot be read any further, the list ends early, without `streamEnd`; what
stands before that point does not depend on what comes after it.
-/

namespace Ascent.Yaml

/-- A place where a key may have started. -/
structure PossibleKey where
  /-- Whether the place is still in question. -/
  possible : Bool
  /-- Whether a key has to start there, by its indentation. -/
  required : Bool
  /-- The number of the token that would be the key. -/
  number : Nat
  index : Nat
  line : Nat
  column : Nat

/-- The state of the lexer between two tokens. -/
structure Lexer where
  cursor : Cursor
  /-- The depth of flow collections. -/
  flow : Nat
  /-- The column of the current block, −1 outside all blocks. -/
  indent : Int
  /-- The columns of the blocks around the current one. -/
  indents : List Int
  /-- Whether a key may start here. -/
  keyAllowed : Bool
  /-- The last possible key of every flow level, innermost first. -/
  keys : List PossibleKey
  /-- For a token number that waits for a decision, the flow level of its key. -/
  waiting : List (Nat × Nat)
  /-- The tokens kept back. -/
  queue : List Token
  /-- The number of tokens given out. -/
  released : Nat

namespace Lexer

/-- The deepest nesting of flow collections and of blocks. -/
def maxDepth : Nat :=
  10000

/-- The number of characters a key may be looked for. -/
def keyReach : Nat :=
  1024

/-- The state at the start of a text. -/
def start (text : String) : Lexer :=
  { cursor := .start text, flow := 0, indent := -1, indents := [], keyAllowed := true
    keys := [⟨false, false, 0, 0, 0, 0⟩], waiting := [], queue := [], released := 0 }

/-- Put a token at the end of the queue. -/
def push (lexer : Lexer) (token : Token) : Lexer :=
  { lexer with queue := lexer.queue ++ [token] }

/-- Put a token in front of the token with a number; if that one was given out
already, at the end. -/
def insert (lexer : Lexer) (number : Nat) (token : Token) : Lexer :=
  if number < lexer.released then lexer.push token
  else
    let position := number - lexer.released
    { lexer with queue := lexer.queue.take position ++ token :: lexer.queue.drop position }

/-- The number of the token that comes next. -/
def nextNumber (lexer : Lexer) : Nat :=
  lexer.released + lexer.queue.length

/-- The token with this number no longer waits. -/
def forget (lexer : Lexer) (number : Nat) : Lexer :=
  { lexer with waiting := lexer.waiting.filter fun entry => entry.1 != number }

/-! ## Possible keys -/

/-- Whether a possible key can still become one: `none` if it cannot although
it has to. -/
def stillPossible? (lexer : Lexer) (key : PossibleKey) : Option Bool :=
  if key.possible then
    if key.line < lexer.cursor.line || key.index + keyReach < lexer.cursor.index then
      if key.required then none else some false
    else some true
  else some false

/-- Give up the possible key of the current flow level. -/
def removeKey? (lexer : Lexer) : Option Lexer :=
  match lexer.keys with
  | [] => some lexer
  | key :: outer =>
      if key.possible then
        if key.required then none
        else some ({ lexer with keys := { key with possible := false } :: outer }.forget key.number)
      else some lexer

/-- Remember the current place as a possible key, if a key may start here. -/
def saveKey? (lexer : Lexer) : Option Lexer :=
  if lexer.keyAllowed then do
    let required := lexer.flow == 0 && lexer.indent == lexer.cursor.column
    let number := lexer.nextNumber
    let lexer ← lexer.removeKey?
    let key : PossibleKey :=
      ⟨true, required, number, lexer.cursor.index, lexer.cursor.line, lexer.cursor.column⟩
    let lexer := lexer.forget number
    return { lexer with
      keys := key :: lexer.keys.drop 1
      waiting := (number, lexer.keys.length - 1) :: lexer.waiting }
  else some lexer

/-- Enter a flow collection. -/
def enterFlow? (lexer : Lexer) : Option Lexer :=
  if maxDepth ≤ lexer.flow then none
  else
    let cursor := lexer.cursor
    some { lexer with
      flow := lexer.flow + 1
      keys := ⟨false, false, lexer.nextNumber, cursor.index, cursor.line, cursor.column⟩ ::
        lexer.keys }

/-- Leave a flow collection. -/
def leaveFlow (lexer : Lexer) : Lexer :=
  match lexer.keys with
  | key :: outer =>
      if 0 < lexer.flow then { lexer with flow := lexer.flow - 1, keys := outer }.forget key.number
      else lexer
  | [] => lexer

/-! ## Indentation -/

/-- Open a block at a column that lies deeper than the current one.  Its token
goes in front of the token with the given number, or at the end. -/
def openBlock? (lexer : Lexer) (column : Nat) (number : Option Nat) (token : Token) :
    Option Lexer :=
  if 0 < lexer.flow then some lexer
  else if lexer.indent < column then
    if maxDepth ≤ lexer.indents.length then none
    else
      let lexer := { lexer with indent := column, indents := lexer.indent :: lexer.indents }
      match number with
      | some n => some (lexer.insert n token)
      | none => some (lexer.push token)
  else some lexer

/-- Close blocks from the innermost one out, as long as they lie deeper than a
column.  The first argument lists the blocks around the current one. -/
def closeFrom (column : Int) : List Int → Lexer → Lexer
  | [], lexer => lexer
  | outer :: further, lexer =>
      if column < lexer.indent then
        closeFrom column further
          ({ lexer with indent := outer, indents := further }.push .blockEnd)
      else lexer

/-- Close the blocks that lie deeper than a column; flow collections keep them
open. -/
def closeBlocks (lexer : Lexer) (column : Int) : Lexer :=
  if 0 < lexer.flow then lexer else closeFrom column lexer.indents lexer

/-! ## Tokens -/

/-- Go over blanks, comments and line ends to the next token.  A tab counts as a
blank only where no key may start.  As long as the text counts as marked by a
byte order mark, the first character of every line is gone over unread. -/
def skipToToken : Nat → Lexer → Option Lexer
  | 0, lexer => some lexer
  | fuel + 1, lexer => do
      let tabs := 0 < lexer.flow || !lexer.keyAllowed
      let cursor ← lexer.cursor.need 1
      let cursor := if cursor.column == 0 && cursor.marked then cursor.skip 1 else cursor
      let cursor ← cursor.skipWhile fun c => c == ' ' || (tabs && c == '\t')
      let cursor ← cursor.skipComment
      if cursor.atLineEnd then
        let (_, after) ← cursor.lineEnd?
        skipToToken fuel
          { lexer with cursor := after, keyAllowed := lexer.keyAllowed || lexer.flow == 0 }
      else return { lexer with cursor }

/-- The tokens that end all blocks and all possible keys before them. -/
def boundary? (lexer : Lexer) : Option Lexer := do
  let lexer ← (lexer.closeBlocks (-1)).removeKey?
  return { lexer with keyAllowed := false }

/-- The end of the text. -/
def finish? (lexer : Lexer) : Option Lexer := do
  let cursor := lexer.cursor
  let cursor :=
    if cursor.column == 0 then cursor
    else { cursor with column := 0, line := cursor.line + 1 }
  let lexer ← { lexer with cursor }.boundary?
  return lexer.push .streamEnd

/-- A token made of one indicator. -/
def indicator (lexer : Lexer) (token : Token) (keyAllowed : Bool) : Lexer :=
  { lexer with cursor := lexer.cursor.skip 1, keyAllowed }.push token

/-- `-`, an entry of a block sequence. -/
def blockEntry? (lexer : Lexer) : Option Lexer := do
  let lexer ←
    if lexer.flow == 0 then
      if lexer.keyAllowed then
        lexer.openBlock? lexer.cursor.column none .blockSequenceStart
      else none
    else some lexer
  let lexer ← lexer.removeKey?
  return lexer.indicator .blockEntry true

/-- `?`, an announced key. -/
def key? (lexer : Lexer) : Option Lexer := do
  let lexer ←
    if lexer.flow == 0 then
      if lexer.keyAllowed then
        lexer.openBlock? lexer.cursor.column none .blockMappingStart
      else none
    else some lexer
  let lexer ← lexer.removeKey?
  return lexer.indicator .key (lexer.flow == 0)

/-- `:`, a value.  The possible key before it, if there is one, becomes a key. -/
def value? (lexer : Lexer) : Option Lexer := do
  match lexer.keys with
  | [] => none
  | key :: outer =>
      if ← lexer.stillPossible? key then
        let lexer := lexer.insert key.number .key
        let lexer ← lexer.openBlock? key.column (some key.number) .blockMappingStart
        let lexer := { lexer with keys := { key with possible := false } :: outer }
        return (lexer.forget key.number).indicator .value false
      else
        let lexer := { lexer with keys := { key with possible := false } :: outer }
        let lexer ←
          if lexer.flow == 0 then
            if lexer.keyAllowed then
              lexer.openBlock? lexer.cursor.column none .blockMappingStart
            else none
          else some lexer
        return lexer.indicator .value (lexer.flow == 0)

/-- A token that can be a key, or the start of one. -/
def keyLike? (lexer : Lexer) (scan : Cursor → Option (Token × Cursor)) : Option Lexer := do
  let lexer ← lexer.saveKey?
  let (token, cursor) ← scan lexer.cursor
  return { lexer with cursor, keyAllowed := false }.push token

/-- The start of a flow collection. -/
def flowStart? (lexer : Lexer) (token : Token) : Option Lexer := do
  let lexer ← (← lexer.saveKey?).enterFlow?
  return lexer.indicator token true

/-- The end of a flow collection. -/
def flowEnd? (lexer : Lexer) (token : Token) : Option Lexer := do
  let lexer ← lexer.removeKey?
  return lexer.leaveFlow.indicator token false

/-- A block scalar. -/
def blockScalar? (lexer : Lexer) (literal : Bool) : Option Lexer := do
  let lexer ← lexer.removeKey?
  let (text, cursor) ← lexer.cursor.block? literal lexer.indent
  return { lexer with cursor, keyAllowed := true }.push (.scalar text false)

/-- A plain scalar; a key may follow it if it ended with a line. -/
def plainScalar? (lexer : Lexer) : Option Lexer := do
  let lexer ← lexer.saveKey?
  let (text, broken, cursor) ← lexer.cursor.plain? (0 < lexer.flow) (lexer.indent + 1).toNat
  return { lexer with cursor, keyAllowed := broken }.push (.scalar text true)

/-- The characters that cannot start a plain scalar by themselves. -/
def isIndicator (c : Char) : Bool :=
  "-?:,[]\x7b\x7d#&*!|>'\"%@\x60".toList.contains c

/-- Whether a plain scalar starts with this character before these others. -/
def startsPlain (lexer : Lexer) (c : Char) (rest : List Char) : Bool :=
  !(isSpace c || isBreak c || isIndicator c) ||
    (c == '-' && !(rest.head?.map isSpace).getD false) ||
    (lexer.flow == 0 && (c == '?' || c == ':') && !startsBlank rest)

/-- Read the next token, with the tokens that indentation adds before it. -/
def fetch? (lexer : Lexer) : Option Lexer := do
  let lexer ← skipToToken (lexer.cursor.rest.length + 1) lexer
  let lexer := lexer.closeBlocks lexer.cursor.column
  let cursor ← lexer.cursor.need 4
  let lexer := { lexer with cursor }
  match lexer.cursor.rest with
  | [] => lexer.finish?
  | c :: rest =>
      if lexer.cursor.column == 0 && c == '%' then
        let lexer ← lexer.boundary?
        let (token, cursor) ← Directive.scan? lexer.cursor
        return { lexer with cursor }.push token
      else if lexer.cursor.atMarker '-' then
        let lexer ← lexer.boundary?
        return { lexer with cursor := lexer.cursor.skip 3 }.push .documentStart
      else if lexer.cursor.atMarker '.' then
        let lexer ← lexer.boundary?
        return { lexer with cursor := lexer.cursor.skip 3 }.push .documentEnd
      else if c == '[' then lexer.flowStart? .flowSequenceStart
      else if c == '\x7b' then lexer.flowStart? .flowMappingStart
      else if c == ']' then lexer.flowEnd? .flowSequenceEnd
      else if c == '\x7d' then lexer.flowEnd? .flowMappingEnd
      else if c == ',' then return (← lexer.removeKey?).indicator .flowEntry true
      else if c == '-' && startsBlank rest then lexer.blockEntry?
      else if c == '?' && (0 < lexer.flow || startsBlank rest) then lexer.key?
      else if c == ':' && (0 < lexer.flow || startsBlank rest) then lexer.value?
      else if c == '*' then
        lexer.keyLike? fun cursor => (cursor.name?).map fun (name, after) => (.alias name, after)
      else if c == '&' then
        lexer.keyLike? fun cursor => (cursor.name?).map fun (name, after) => (.anchor name, after)
      else if c == '!' then lexer.keyLike? Tag.scan?
      else if c == '|' && lexer.flow == 0 then lexer.blockScalar? true
      else if c == '>' && lexer.flow == 0 then lexer.blockScalar? false
      else if c == '\x27' then
        lexer.keyLike? fun cursor =>
          (cursor.quoted? true).map fun (text, after) => (.scalar text false, after)
      else if c == '\x22' then
        lexer.keyLike? fun cursor =>
          (cursor.quoted? false).map fun (text, after) => (.scalar text false, after)
      else if lexer.startsPlain c rest then lexer.plainScalar?
      else none

/-- Whether the first token of the queue has to wait for a decision about a key;
`none` if that key is missing. -/
def mustWait? (lexer : Lexer) : Option Bool :=
  match lexer.waiting.find? fun entry => entry.1 == lexer.released with
  | none => some false
  | some (_, level) =>
      match lexer.keys[lexer.keys.length - 1 - level]? with
      | none => some false
      | some key => lexer.stillPossible? key

/-- Give out the tokens of the queue that are certain; the first argument lists
the queue.  The second part of the result is absent if a key is missing. -/
def release : List Token → Lexer → List Token × Option Lexer
  | [], lexer => ([], some lexer)
  | token :: rest, lexer =>
      match lexer.mustWait? with
      | none => ([], none)
      | some true => ([], some lexer)
      | some false =>
          let lexer := { lexer with queue := rest, released := lexer.released + 1 }
          let (tokens, last) := release rest lexer
          (token :: tokens, last)

/-- Read and give out tokens up to the end of the text.  The first argument
bounds the number of tokens read. -/
def run : Nat → Lexer → List Token
  | 0, _ => []
  | fuel + 1, lexer =>
      match lexer.fetch? with
      | none => []
      | some lexer =>
          let (tokens, last) := release lexer.queue lexer
          match last with
          | none => tokens
          | some lexer =>
              if lexer.cursor.rest.isEmpty && lexer.queue.isEmpty &&
                  tokens.getLast? == some .streamEnd then tokens
              else tokens ++ run fuel lexer

end Lexer

/-- The tokens of a text, up to the first place that cannot be read. -/
def tokens (text : String) : List Token :=
  let lexer := Lexer.start text
  lexer.run (lexer.cursor.rest.length + 2)

end Ascent.Yaml
