import Ascent.Text.Cluster.Class

/-!
# Clusters

A cluster is what a reader takes for one sign: a character with its marks, a
Korean syllable in its parts, a joined pictograph, a flag.  Characters are
divided into clusters from left to right; whether a cluster ends before a
character depends on its class and on what came before.
-/

namespace Ascent.Text.Cluster

/-- What came last, as far as it matters for the next character. -/
inductive State where
  | anything
  | afterReturn
  | afterControl
  | afterLeading
  /-- After a vowel, or a syllable that ends with one. -/
  | afterVowel
  /-- After a last consonant, or a syllable that ends with one. -/
  | afterTrailing
  | afterPrepended
  | afterPictograph
  /-- After a pictograph with a joiner. -/
  | afterJoined
  /-- After the first letter of a flag. -/
  | insideFlag
  /-- After the second letter of a flag. -/
  | afterFlag
deriving DecidableEq, Repr

/-- What a character does where nothing particular came before: the state after
it, and whether a cluster ends before it. -/
def fresh : Class → State × Bool
  | .carriageReturn => (.afterReturn, true)
  | .lineFeed => (.afterControl, true)
  | .control => (.afterControl, true)
  | .extending => (.anything, false)
  | .joiner => (.anything, false)
  | .spacing => (.anything, false)
  | .prepended => (.afterPrepended, true)
  | .regional => (.insideFlag, true)
  | .leading => (.afterLeading, true)
  | .vowel => (.afterVowel, true)
  | .openSyllable => (.afterVowel, true)
  | .trailing => (.afterTrailing, true)
  | .closedSyllable => (.afterTrailing, true)
  | .pictograph => (.afterPictograph, true)
  | .other => (.anything, true)

/-- The state after a character, and whether a cluster ends before it.  Behind a
control, and behind what joined a prepended sign, nothing is remembered. -/
def step : State → Class → State × Bool
  | .afterReturn, .lineFeed => (.anything, false)
  | .afterReturn, _ => (.anything, true)
  | .afterControl, _ => (.anything, true)
  | .afterPrepended, .carriageReturn => fresh .carriageReturn
  | .afterPrepended, .lineFeed => fresh .lineFeed
  | .afterPrepended, .control => fresh .control
  | .afterPrepended, _ => (.anything, false)
  | .afterLeading, .leading => (.afterLeading, false)
  | .afterLeading, .vowel => (.afterVowel, false)
  | .afterLeading, .openSyllable => (.afterVowel, false)
  | .afterLeading, .closedSyllable => (.afterTrailing, false)
  | .afterVowel, .vowel => (.afterVowel, false)
  | .afterVowel, .trailing => (.afterTrailing, false)
  | .afterTrailing, .trailing => (.afterTrailing, false)
  | .afterPictograph, .extending => (.afterPictograph, false)
  | .afterPictograph, .joiner => (.afterJoined, false)
  | .afterJoined, .pictograph => (.afterPictograph, false)
  | .insideFlag, .regional => (.afterFlag, false)
  | .afterFlag, .regional => (.insideFlag, true)
  | _, next => fresh next

/-- The clusters of characters; `current` holds the characters of the cluster
that has begun, in reverse. -/
def divide : State → (current : List Char) → List Char → List (List Char)
  | _, [], [] => []
  | _, current, [] => [current.reverse]
  | state, current, c :: rest =>
      let (next, ends) := step state (.ofChar c)
      if ends && !current.isEmpty then current.reverse :: divide next [c] rest
      else divide next (c :: current) rest

/-- The clusters of a text. -/
def ofText (text : String) : List (List Char) :=
  divide .anything [] text.toList

end Ascent.Text.Cluster
