import PlanComparison.Event
import PlanComparison.Term.Evaluation

/-!
Truth values of comparisons. Two numeric operands are reduced and compared as numbers; `=` and
`!=` also compare two constants, by name. Whatever else is refused before anything is reduced.
-/

namespace PlanComparison.Comparison

def constants? (c : Comparison) : Option (String × String) :=
  match c.left, c.right with
  | .const a, .const b => some (a, b)
  | _, _ => none

def isEqualityEvaluable (c : Comparison) : Bool := c.isNumeric || c.constants?.isSome

def isEvaluable (c : Comparison) : Bool :=
  match c.op with
  | .equal | .notEqual => c.isEqualityEvaluable
  | _ => c.isNumeric

def reduce (c : Comparison) : Except Error (Number × Number) := do
  let x ← c.left.evaluate
  let y ← c.right.evaluate
  return (x, y)

def refuse (c : Comparison) : Logged (Except Error Bool) := do
  Logged.report (.refused c)
  return .error (.comparisonNotEvaluable c)

/-- Whether the operands are equal, whatever the comparator. -/
def equalityVerdict (c : Comparison) : Logged (Except Error Bool) :=
  if c.isNumeric then return c.reduce.map fun p => Comparator.equal.holds p.1 p.2
  else
    match c.constants? with
    | some (a, b) => return .ok (a == b)
    | none => c.refuse

def orderVerdict (c : Comparison) : Logged (Except Error Bool) :=
  if c.isNumeric then return c.reduce.map fun p => c.op.holds p.1 p.2
  else c.refuse

def verdict (c : Comparison) : Logged (Except Error Bool) :=
  match c.op with
  | .equal => c.equalityVerdict
  | .notEqual => return (← c.equalityVerdict).map not
  | _ => c.orderVerdict

def evaluate (c : Comparison) : Logged (Except Error Bool) := do
  match ← c.verdict with
  | .ok result =>
    Logged.report (.evaluated c result)
    return .ok result
  | .error e => return .error e

end PlanComparison.Comparison
