import Ascent.Text.Octets
import Ascent.Yaml.Lexeme.Quoted
import Ascent.Yaml.Token

/-!
# Anchors, tags and directives

An anchor or alias is a name of word characters.  A tag is written `!<uri>`,
`!handle!suffix` or `!suffix`; in its URI, an escape `%xx` stands for one octet
of a UTF-8 sequence, and a sequence that encodes no character becomes U+FFFD for
each of its octets.  Directives give the YAML version and define tag handles.
-/

namespace Ascent.Yaml

namespace Tag

/-- The characters of a tag URI. -/
def isUri (c : Char) : Bool :=
  isWord c || ";/?:@&=+$,.!~*'()[]%".toList.contains c

/-- Read the octet written by `%xx`. -/
def octet? (cursor : Cursor) : Option (Nat × Cursor) := do
  let cursor ← cursor.need 3
  match cursor.rest with
  | '%' :: a :: b :: _ => return ((← hexDigit? a) * 16 + (← hexDigit? b), cursor.skip 3)
  | _ => none

/-- The number of octets that follow a leading one. -/
def followers? (octet : Nat) : Option Nat :=
  if octet < 0x80 then some 0
  else if octet / 32 == 6 then some 1
  else if octet / 16 == 14 then some 2
  else if octet / 8 == 30 then some 3
  else none

/-- Read the following octets of a UTF-8 sequence; `octets` holds those before
them, in reverse. -/
def following? : Nat → (octets : List Nat) → Cursor → Option (List Nat × Cursor)
  | 0, octets, cursor => some (octets, cursor)
  | count + 1, octets, cursor => do
      let (octet, after) ← octet? cursor
      if Text.continues octet then following? count (octet :: octets) after else none

/-- Read one escaped UTF-8 sequence: what it stands for, in reverse. -/
def escaped? (cursor : Cursor) : Option (List Char × Cursor) := do
  let (first, after) ← octet? cursor
  let (octets, after) ← following? (← followers? first) [first] after
  return ((Text.charactersFrom 0 octets.reverse).reverse, after)

/-- Read URI characters; the value is collected in reverse. -/
def uri : Nat → (value : List Char) → Cursor → Option (List Char × Cursor)
  | 0, value, cursor => some (value, cursor)
  | fuel + 1, value, cursor => do
      let cursor ← cursor.need 1
      match cursor.rest with
      | [] => return (value, cursor)
      | c :: _ =>
          if c == '%' then
            let (decoded, after) ← escaped? cursor
            uri fuel (decoded ++ value) after
          else if isUri c then uri fuel (c :: value) (cursor.skip 1)
          else return (value, cursor)

/-- Read a URI, which must not be empty unless something stood before it. -/
def uri? (cursor : Cursor) (before : Bool) : Option (String × Cursor) := do
  let (value, after) ← uri (cursor.rest.length + 1) [] cursor
  if value.isEmpty && !before then none else return (String.ofList value.reverse, after)

/-- Read a handle `!name!`, or the part `!name` of what is none. -/
def handle? (cursor : Cursor) : Option (String × Bool × Cursor) :=
  match cursor.rest with
  | '!' :: _ => do
      let (name, after) ← (cursor.skip 1).takeWhile isWord
      if after.rest.head? == some '!' then
        return ("!" ++ String.ofList name ++ "!", true, after.skip 1)
      else return ("!" ++ String.ofList name, false, after)
  | _ => none

/-- Read a tag.  It must be followed by a blank. -/
def scan? (cursor : Cursor) : Option (Token × Cursor) := do
  let (token, after) ← (do
    let cursor ← cursor.need 2
    if (cursor.rest.drop 1).head? == some '<' then
      let (suffix, after) ← uri? (cursor.skip 2) false
      if after.rest.head? == some '>' then return (Token.tag "" suffix, after.skip 1)
      else none
    else
      let (handle, closed, after) ← handle? cursor
      if closed then
        let (suffix, after) ← uri? after false
        return (Token.tag handle suffix, after)
      else
        let (suffix, after) ← uri? after true
        let suffix := String.ofList (handle.toList.drop 1) ++ suffix
        return (if suffix.isEmpty then Token.tag "" "!" else Token.tag "!" suffix, after))
  let after ← after.need 1
  if startsBlank after.rest then return (token, after) else none

end Tag

/-- Read the name of an anchor or alias behind its indicator. -/
def Cursor.name? (cursor : Cursor) : Option (String × Cursor) := do
  let (name, after) ← (cursor.skip 1).takeWhile isWord
  let closed := startsBlank after.rest ||
    match after.rest.head? with
    | some c => "?:,]\x7d%@\x60".toList.contains c
    | none => true
  if name.isEmpty || !closed then none else return (String.ofList name, after)

namespace Directive

/-- Read a version number of at most two digits. -/
def number? (cursor : Cursor) : Option (Nat × Cursor) := do
  let (digits, after) ← cursor.takeWhile Char.isDigit
  if digits.isEmpty || 2 < digits.length then none
  else return (digits.foldl (fun n c => n * 10 + (c.toNat - '0'.toNat)) 0, after)

/-- Read the version behind `%YAML`. -/
def version? (cursor : Cursor) : Option (Token × Cursor) := do
  let (major, after) ← number? (← cursor.skipWhile isSpace)
  if after.rest.head? == some '.' then
    let (minor, after) ← number? (after.skip 1)
    return (.version major minor, after)
  else none

/-- Read the handle and its expansion behind `%TAG`. -/
def tag? (cursor : Cursor) : Option (Token × Cursor) := do
  let (name, closed, after) ← Tag.handle? (← cursor.skipWhile isSpace)
  let after ← after.need 1
  if !closed && name != "!" then none
  else if !(after.rest.head?.map isSpace).getD false then none
  else
    let (expansion, after) ← Tag.uri? (← after.skipWhile isSpace) false
    let after ← after.need 1
    if startsBlank after.rest then return (.handle name expansion, after) else none

/-- Read a directive and the rest of its line. -/
def scan? (cursor : Cursor) : Option (Token × Cursor) := do
  let (name, after) ← (cursor.skip 1).takeWhile isWord
  if name.isEmpty || !startsBlank after.rest then none
  else
    let (token, after) ←
      match String.ofList name with
      | "YAML" => version? after
      | "TAG" => tag? after
      | _ => none
    return (token, ← after.skipLine?)

end Directive

end Ascent.Yaml
