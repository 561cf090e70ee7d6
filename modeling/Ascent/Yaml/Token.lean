/-!
# YAML tokens

The words of the YAML grammar.  Block structure is made explicit: indentation
opens and closes collections by tokens of its own, and a key without its own
indicator is preceded by a `key` token.
-/

namespace Ascent.Yaml

/-- A word of the YAML grammar. -/
inductive Token where
  /-- A `%YAML` directive with its version. -/
  | version (major minor : Nat)
  /-- A `%TAG` directive. -/
  | handle (name expansion : String)
  | documentStart
  | documentEnd
  | blockSequenceStart
  | blockMappingStart
  | blockEnd
  | flowSequenceStart
  | flowSequenceEnd
  | flowMappingStart
  | flowMappingEnd
  | blockEntry
  | flowEntry
  | key
  | value
  | anchor (name : String)
  | alias (name : String)
  | tag (handle suffix : String)
  /-- A scalar; `plain` tells it from a quoted or a block scalar. -/
  | scalar (text : String) (plain : Bool)
  | streamEnd
deriving DecidableEq, Repr

end Ascent.Yaml
