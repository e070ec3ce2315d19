import PlanComparison.Error
import PlanComparison.Number.Arithmetic

namespace PlanComparison

def BinaryOp.apply : BinaryOp → Number → Number → Binary64
  | add => Number.add
  | subtract => Number.sub
  | multiply => Number.mul
  | divide => Number.div

namespace Term

def combine (t : Term) (op : BinaryOp) (x y : Number) : Except Error Number :=
  if op = .divide ∧ y.isZero then .error (.divisionByZero t)
  else
    match op.apply x y with
    | .finite z => .ok z
    | _ => .error (.nonFinite t)

def evaluate : Term → Except Error Number
  | t@(var _) => .error (.termNotEvaluable t)
  | t@(const _) => .error (.termNotEvaluable t)
  | num x => .ok x
  | minus a => do
    let x ← a.evaluate
    return x.neg
  | t@(binary op a b) => do
    let x ← a.evaluate
    let y ← b.evaluate
    t.combine op x y

end Term

end PlanComparison
