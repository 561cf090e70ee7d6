import Ascent.Text.Quoted

/-!
# Causes of failure

A failure is a value, not a text.  `Cause` says what is wrong, an `Error` adds
the places the complaint passed on its way out, and `Error.message` is the one
function that knows the wording.  Some operations insist on a well-formed
argument instead of returning an error; `Abort` lists how such a call ends, and
`Fault` joins both kinds with the uses that have no meaning at all.
-/

namespace Ascent

/-- How a running search can be told to stop from outside. -/
inductive Interrupt where
  | cancelled
  | deadline
  /-- For a reason worded by the caller. -/
  | other (text : String)
deriving DecidableEq, Repr, Inhabited

/-- The wording of an interruption. -/
def Interrupt.message : Interrupt → String
  | .cancelled => "context canceled"
  | .deadline => "context deadline exceeded"
  | .other text => text

/-- What is wrong with a value handed to the library. -/
inductive Cause where
  /-- A variable index outside `[0, length)`. -/
  | indexOutOfRange (index : Int) (length : Nat)
  /-- A solution with another number of variables than expected. -/
  | solutionWidth (found expected : Nat)
  /-- A constraint with another number of weights than the objective. -/
  | weightCount (found expected : Nat)
  /-- An operator text outside the four comparisons. -/
  | unknownOperator (text : String)
  /-- A weight vector without variables. -/
  | emptyWeights
  | noProblem
  | noObjective
  | noSolution
  /-- A character that is neither a digit nor a separator of a solution text. -/
  | badCharacter (character : Char) (offset : Nat) (text : String)
  /-- A solution text without digits. -/
  | emptySolution (text : String)
  /-- A negative iteration cap. -/
  | negativeCap (cap : Int)
  | unknownNeighborhood (name : String)
  | unknownSelection (name : String)
  /-- The search was interrupted. -/
  | interrupted (signal : Interrupt)
  /-- An optimizer returned no solution of the problem's width. -/
  | invalidResult (shown : String) (width : Nat)
  /-- A failure worded by an optimizer of the caller. -/
  | custom (text : String)
deriving DecidableEq, Repr

/-- The wording of a cause, without the places around it. -/
def Cause.message : Cause → String
  | .indexOutOfRange index length =>
      s!"problem: index out of range: {index} not in [0,{length})"
  | .solutionWidth found expected =>
      s!"problem: length mismatch: solution has {found} variables, want {expected}"
  | .weightCount found expected =>
      s!"problem: length mismatch: {found} weights, objective has {expected}"
  | .unknownOperator text => "problem: unknown operator " ++ Text.quote text
  | .emptyWeights => "problem: empty weight vector"
  | .noProblem => "problem is nil"
  | .noObjective => "problem: objective is nil"
  | .noSolution => "problem: solution is nil"
  | .badCharacter character offset text =>
      "problem: invalid character " ++ Text.quoteChar character ++
        s!" at offset {offset} in solution " ++ Text.quote text
  | .emptySolution text => "problem: empty solution " ++ Text.quote text
  | .negativeCap cap => s!"MaxIterations must be >= 0 (got {cap})"
  | .unknownNeighborhood name => "unknown neighborhood " ++ Text.quote name
  | .unknownSelection name => "unknown selection " ++ Text.quote name
  | .interrupted signal => signal.message
  | .invalidResult shown width => s!"invalid solution {shown} (want {width} variables)"
  | .custom text => text

/-- A place that an error passes on its way to the caller. -/
inductive Place where
  | objective
  | constraint
  | problem
  | start
  /-- The member of a constraint set with this index. -/
  | member (index : Nat)
  /-- The starting solution with this index. -/
  | startAt (index : Nat)
  /-- The benchmark run with this index. -/
  | run (index : Nat)
  /-- A run that failed while its signal was raised. -/
  | interruptedRun
  /-- A run that failed by itself. -/
  | failedRun
deriving DecidableEq, Repr

/-- The wording of a place. -/
def Place.text : Place → String
  | .objective => "objective"
  | .constraint => "constraint"
  | .problem => "problem"
  | .start => "start"
  | .member index => s!"constraint {index}"
  | .startAt index => s!"start {index}"
  | .run index => s!"run {index}"
  | .interruptedRun => "cancelled/timeout"
  | .failedRun => "solve error"

/-- A cause together with the places it passed, outermost first. -/
structure Error where
  path : List Place
  cause : Cause
deriving DecidableEq, Repr

namespace Error

/-- An error that has not passed any place yet. -/
def of (cause : Cause) : Error :=
  ⟨[], cause⟩

/-- The same cause seen from one place further out. -/
def within (place : Place) (error : Error) : Error :=
  { error with path := place :: error.path }

/-- The full wording: the places from outside in, then the cause. -/
def message (error : Error) : String :=
  String.join (error.path.map fun place => place.text ++ ": ") ++ error.cause.message

@[simp]
theorem cause_within (place : Place) (error : Error) :
    (error.within place).cause = error.cause :=
  rfl

@[simp]
theorem path_within (place : Place) (error : Error) :
    (error.within place).path = place :: error.path :=
  rfl

end Error

/-- How a call ends that insists on its argument and does not get it. -/
inductive Abort where
  /-- A solution of negative length was asked for. -/
  | negativeLength (length : Int)
  /-- A constraint without a comparison was evaluated. -/
  | noComparison (text : String)
  /-- A missing constraint was added to a set. -/
  | noConstraint
  /-- A random value was asked for without a generator. -/
  | noGenerator
  /-- A random problem without variables or with a negative number of constraints. -/
  | badShape (width constraints : Int)
  /-- A climb was to use a neighborhood that does not exist. -/
  | strayNeighborhood (name : String)
  /-- A climb was to use a selection rule that does not exist. -/
  | straySelection (name : String)
  /-- An error where the caller had promised there is none. -/
  | broken (error : Error)
deriving DecidableEq, Repr

/-- The wording of an abort. -/
def Abort.message : Abort → String
  | .negativeLength length => s!"problem: negative solution length {length}"
  | .noComparison text =>
      "problem: unknown operator " ++ Text.quote text ++ " reached evaluation"
  | .noConstraint => "problem: nil constraint"
  | .noGenerator => "problem: random generator is nil"
  | .badShape width constraints =>
      s!"problem: invalid random problem shape {width}x{constraints}"
  | .strayNeighborhood name => "hc: unknown neighborhood " ++ Text.quote name
  | .straySelection name => "hc: unknown selection " ++ Text.quote name
  | .broken error => error.message

/-- Everything that can keep an operation from giving a value. -/
inductive Fault where
  /-- The operation reports an error. -/
  | rejected (error : Error)
  /-- The operation does not return. -/
  | aborted (abort : Abort)
  /-- The operation has no meaning on this argument. -/
  | undefined
deriving DecidableEq, Repr

namespace Fault

/-- A reported error is seen from one place further out; the rest is unchanged. -/
def within (place : Place) : Fault → Fault
  | .rejected error => .rejected (error.within place)
  | fault => fault

/-- Insisting turns a reported error into an abort. -/
def insist : Fault → Fault
  | .rejected error => .aborted (.broken error)
  | fault => fault

end Fault

/-- Report an error from inside an operation that may fail in any way. -/
def report {α : Type} : Except Error α → Except Fault α
  | .ok value => .ok value
  | .error error => .error (.rejected error)

/-- Insist that an operation succeeds. -/
def insist {α : Type} : Except Fault α → Except Fault α
  | .ok value => .ok value
  | .error fault => .error fault.insist

/-- Use a value that may be missing; a missing one has no meaning here. -/
def present {α : Type} : Option α → Except Fault α
  | some value => .ok value
  | none => .error .undefined

end Ascent
