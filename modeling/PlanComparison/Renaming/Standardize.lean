import PlanComparison.Comparison.Equality
import PlanComparison.Renaming.Context

namespace PlanComparison

def Term.standardize : Term → Renaming Term
  | .var name => return .var (← imageOf name)
  | .const name => return .const name
  | .num x => return .num x
  | .minus a => return .minus (← a.standardize)
  | .binary op a b => do
    let a ← a.standardize
    let b ← b.standardize
    return .binary op a b

def Comparison.standardize (c : Comparison) : Renaming Comparison := do
  let left ← c.left.standardize
  let right ← c.right.standardize
  return ⟨c.op, left, right⟩

def Equality.standardize (e : Equality) : Renaming Equality := do
  let left ← e.left.standardize
  let right ← e.right.standardize
  return ⟨left, right⟩

end PlanComparison
