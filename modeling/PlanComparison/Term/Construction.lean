import PlanComparison.Error

namespace PlanComparison.Term

def literal : Binary64 → Except Error Term
  | .finite x => .ok (num x)
  | value => .error (.notFinite value)

def arithmetic : Operator → List Term → Except Error Term
  | .minus, [a] => .ok (minus a)
  | .binary op, [a, b] => .ok (binary op a b)
  | op, operands => .error (.operandCount op operands.length)

theorem arithmetic_eq_error_iff (op : Operator) (operands : List Term) (e : Error) :
    arithmetic op operands = .error e ↔
      operands.length ≠ op.arity ∧ e = .operandCount op operands.length := by
  unfold arithmetic
  split
  · simp [Operator.arity]
  · simp [Operator.arity]
  · rename_i hminus hbinary
    have hcount : operands.length ≠ op.arity := by
      intro h
      cases op with
      | minus =>
        obtain ⟨a, rfl⟩ := List.length_eq_one_iff.mp h
        exact hminus a rfl rfl
      | binary op =>
        match operands, h with
        | [a, b], _ => exact hbinary op a b rfl rfl
    simp [hcount, eq_comm]

end PlanComparison.Term
