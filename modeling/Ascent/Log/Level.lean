import Ascent.Numeral
import Ascent.Text.Fold

/-!
# Log levels

A level is a number; the usual ones have names.  An event is written when its
level is not below the level of the logger.
-/

namespace Ascent.Log

/-- How much an event matters, or must matter to be written. -/
structure Level where
  value : Int
deriving DecidableEq, Repr

namespace Level

def trace : Level := ⟨-1⟩
def debug : Level := ⟨0⟩
def info : Level := ⟨1⟩
def warn : Level := ⟨2⟩
def error : Level := ⟨3⟩
def fatal : Level := ⟨4⟩
def panic : Level := ⟨5⟩
/-- The level of events that have none. -/
def none : Level := ⟨6⟩
/-- The level of loggers that write nothing. -/
def disabled : Level := ⟨7⟩

/-- The levels with their names. -/
def names : List (String × Level) :=
  [("trace", trace), ("debug", debug), ("info", info), ("warn", warn), ("error", error),
    ("fatal", fatal), ("panic", panic), ("disabled", disabled), ("", none)]

/-- The name of a level; a level without one shows its number. -/
def name (level : Level) : String :=
  match names.find? fun entry => entry.2 == level with
  | some entry => entry.1
  | Option.none => toString level.value

/-- The three letters of a level in a console line. -/
def letters (level : Level) : String :=
  if level == trace then "TRC"
  else if level == debug then "DBG"
  else if level == info then "INF"
  else if level == warn then "WRN"
  else if level == error then "ERR"
  else if level == fatal then "FTL"
  else if level == panic then "PNC"
  else "???"

/-- Why a text names no level. -/
inductive Failure where
  | unknown (text : String)
  | outOfBounds (value : Int)
deriving DecidableEq, Repr

/-- The wording of a failure. -/
def Failure.message : Failure → String
  | .unknown text => "Unknown Level String: '" ++ text ++ "', defaulting to NoLevel"
  | .outOfBounds value => s!"Out-Of-Bounds Level: '{value}', defaulting to NoLevel"

/-- The level that a text means: a name in any case, or a number of eight bits. -/
def parse (text : String) : Except Failure Level :=
  match names.find? fun entry => entry.1 == Text.fold text with
  | some entry => .ok entry.2
  | Option.none =>
      match Numeral.decimal text with
      | .error _ => .error (.unknown text)
      | .ok value =>
          if -128 ≤ value ∧ value ≤ 127 then .ok ⟨value⟩ else .error (.outOfBounds value)

/-- Whether an event of level `event` is written at this level. -/
def admits (level event : Level) : Bool :=
  level.value ≤ event.value && trace.value ≤ event.value

end Level

end Ascent.Log
