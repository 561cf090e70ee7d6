import Ascent.Constraint

/-!
# Comparing by a symbol

A comparison can be handed on as a text.  Comparing by a text looks the symbol up again; a
text that is no symbol has no meaning as a comparison, and the call does not return.
-/

namespace Ascent

/-- Whether a value stands in the relation with this symbol to a threshold. -/
def Operator.compareBy (symbol : String) (value threshold : Int64) : Except Fault Bool :=
  match symbol with
  | "<" => .ok (value < threshold)
  | "<=" => .ok (value ≤ threshold)
  | ">" => .ok (value > threshold)
  | ">=" => .ok (value ≥ threshold)
  | other => .error (.aborted (.noComparison other))

/-- Whether a solution satisfies a constraint that keeps its comparison as a symbol. -/
def Constraint.isFeasibleBySymbol (c : Constraint) (s : Solution) : Except Fault Bool := do
  let sum ← report (c.value s)
  Operator.compareBy c.symbol sum c.threshold

end Ascent
