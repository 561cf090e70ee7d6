/-!
# Reading a text in chunks

A text is not read at once: chunks of at most 512 bytes, which hold whole
characters only, are fetched when their characters are needed.  A character
that YAML does not admit spoils the chunk it is in, so that the text is refused
as soon as anything of that chunk is needed, and is not refused if nothing is.
-/

namespace Ascent.Yaml

/-- The characters a YAML text may hold. -/
def isAdmitted (c : Char) : Bool :=
  let code := c.toNat
  code == 0x09 || code == 0x0a || code == 0x0d || (0x20 ≤ code && code ≤ 0x7e) || code == 0x85 ||
    (0xa0 ≤ code && code ≤ 0xd7ff) || (0xe000 ≤ code && code ≤ 0xfffd) || 0x10000 ≤ code

/-- A piece of a text that is fetched at once. -/
structure Chunk where
  /-- The number of its characters. -/
  size : Nat
  /-- Whether all its characters are admitted. -/
  sound : Bool
deriving DecidableEq, Repr

namespace Chunk

/-- The largest size of a chunk in bytes. -/
def capacity : Nat :=
  512

/-- A chunk without any characters. -/
def empty : Chunk :=
  ⟨0, true⟩

/-- Add a character to a chunk. -/
def add (chunk : Chunk) (c : Char) : Chunk :=
  ⟨chunk.size + 1, chunk.sound && isAdmitted c⟩

/-- The chunks of a text.  `current` is the chunk that is being filled and
`used` the number of its bytes. -/
def split : (current : Chunk) → (used : Nat) → List Char → List Chunk
  | current, _, [] => if current.size == 0 then [] else [current]
  | current, used, c :: rest =>
      if used + c.utf8Size ≤ capacity then split (current.add c) (used + c.utf8Size) rest
      else current :: split (empty.add c) c.utf8Size rest

/-- Fetch chunks until a number of characters is at hand, of which there are
`ahead` already.  Behind the last chunk, the end of the text counts as one
character more every time it is met.  The result is the number of characters at
hand and the chunks left; it is absent if a chunk is spoilt. -/
def fetch (wanted : Nat) : (ahead : Nat) → List Chunk → Option (Nat × List Chunk)
  | ahead, [] => some (ahead + 1, [])
  | ahead, chunk :: later =>
      if !chunk.sound then none
      else if wanted ≤ ahead + chunk.size then some (ahead + chunk.size, later)
      else fetch wanted (ahead + chunk.size) later

end Chunk

end Ascent.Yaml
