import Ascent.Command.Flag
import Ascent.Report

/-!
# Outcomes of commands

A command is a function from its arguments and the files around it to an
outcome: what it writes, the files after it, and its exit status.  What only a
clock can tell, the time of day in log lines and the time that a run took, is
handed to it.
-/

namespace Ascent.Command

/-- What a command writes, piece by piece. -/
inductive Output where
  /-- To the standard output. -/
  | result (text : String)
  /-- To the standard error output. -/
  | notice (text : String)
  /-- A log record, to the standard error output. -/
  | log (record : Log.Record)
deriving DecidableEq, Repr

/-- How a command ended. -/
structure Outcome where
  outputs : List Output
  exit : Nat
deriving DecidableEq, Repr

namespace Outcome

/-- A command that stops with a notice. -/
def refuse (exit : Nat) (notice : String) : Outcome :=
  ⟨[.notice (notice ++ "\n")], exit⟩

/-- A command whose flags cannot be used: the complaint and the usage text as a
notice, and the complaint once more as its result. -/
def misused (failure : Flag.Failure) (usage : String) : Outcome :=
  ⟨[.notice (failure.notice ++ usage), .result (failure.message ++ "\n")], 2⟩

/-- An outcome behind what was written before. -/
def after (outputs : List Output) (outcome : Outcome) : Outcome :=
  { outcome with outputs := outputs ++ outcome.outputs }

/-- The text on the standard output. -/
def standardOutput (outcome : Outcome) : String :=
  String.join (outcome.outputs.map fun
    | .result text => text
    | _ => "")

/-- The text on the standard error output; log lines carry the given time. -/
def standardError (stamp : String) (outcome : Outcome) : String :=
  String.join (outcome.outputs.map fun
    | .notice text => text
    | .log record => record.console stamp
    | .result _ => "")

/-- The text on the standard error output without log lines. -/
def notices (outcome : Outcome) : String :=
  String.join (outcome.outputs.map fun
    | .notice text => text
    | _ => "")

end Outcome

/-- What a line of a report becomes. -/
def Output.ofLine : Line → Output
  | .table text => .result text
  | .journal record => .log record
  | .log record => .log record

/-- The logger that a command starts with. -/
def initialLogger : Log.Logger Unit :=
  { Log.Logger.writing () with level := .info }

end Ascent.Command
