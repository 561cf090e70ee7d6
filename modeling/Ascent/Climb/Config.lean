import Ascent.Error

/-!
# Configuration of a climb

The rules of a climb by name, and an optional cap on its iterations.
-/

namespace Ascent.Climb

/-- The rules of a climb.  A cap of zero means that there is none. -/
structure Config where
  neighborhood : String
  selection : String
  maxIterations : Int
deriving DecidableEq, Repr

namespace Config

/-- The only neighborhood there is. -/
def singleBit : String :=
  "single-bit"

/-- The only selection rule there is. -/
def bestImprovement : String :=
  "best-improvement"

/-- Climb to a local optimum. -/
def default : Config :=
  ⟨singleBit, bestImprovement, 0⟩

/-- A configuration can be used when its cap is not negative and its rules are
known; the first complaint in this order counts. -/
def validate (config : Config) : Except Error Unit :=
  if config.maxIterations < 0 then .error (.of (.negativeCap config.maxIterations))
  else if config.neighborhood ≠ singleBit then
    .error (.of (.unknownNeighborhood config.neighborhood))
  else if config.selection ≠ bestImprovement then
    .error (.of (.unknownSelection config.selection))
  else .ok ()

/-- Whether the cap is reached after a number of iterations. -/
def capReached (config : Config) (iteration : Nat) : Bool :=
  0 < config.maxIterations && config.maxIterations ≤ iteration

end Config

end Ascent.Climb
