import Ascent.Log.Record

/-!
# Loggers

A logger has a level, fields that it adds to every record, and a target.  The
target is any type: the library writes nothing itself, it says what is to be
written where.
-/

namespace Ascent.Log

/-- A source of log lines for a target. -/
structure Logger (τ : Type) where
  level : Level
  context : List Field
  /-- Where lines go; nowhere if absent. -/
  target : Option τ
deriving DecidableEq, Repr

namespace Logger

variable {τ : Type}

/-- A logger that writes everything to a target. -/
def writing (target : τ) : Logger τ :=
  ⟨.trace, [], some target⟩

/-- A logger that writes nothing. -/
def silent : Logger τ :=
  ⟨.disabled, [], none⟩

/-- The same logger with another target. -/
def redirect (logger : Logger τ) (target : τ) : Logger τ :=
  { logger with target := some target }

/-- The same logger with the level that a text means. -/
def setLevel (logger : Logger τ) (text : String) : Except Level.Failure (Logger τ) := do
  return { logger with level := ← Level.parse text }

/-- The same logger with more fields. -/
def withFields (logger : Logger τ) (fields : List Field) : Logger τ :=
  { logger with context := logger.context ++ fields }

/-- The target of a record and the record with the logger's fields, if it is to be
written. -/
def emit? (logger : Logger τ) (record : Record) : Option (τ × Record) :=
  if logger.level.admits record.level then
    logger.target.map fun target =>
      (target, { record with fields := logger.context ++ record.fields })
  else none

/-- The text of a record in a given form, empty if it is not to be written. -/
def line (logger : Logger τ) (form : Record → String) (record : Record) : String :=
  match logger.emit? record with
  | some (_, record) => form record
  | none => ""

end Logger

end Ascent.Log
