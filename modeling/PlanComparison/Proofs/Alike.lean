import PlanComparison.Proofs.Outcome
import PlanComparison.Substitution

namespace PlanComparison

namespace Term

structure Alike (t u : Term) : Prop where
  isNumeric_eq : t.isNumeric = u.isNumeric
  outcome_eq : outcome t.evaluate = outcome u.evaluate
  const_iff : ∀ name, t = const name ↔ u = const name

namespace Alike

theorem refl (t : Term) : t.Alike t where
  isNumeric_eq := rfl
  outcome_eq := rfl
  const_iff _ := Iff.rfl

variable {a b c d : Term}

theorem minus (h : a.Alike b) : a.minus.Alike b.minus where
  isNumeric_eq := h.isNumeric_eq
  outcome_eq := by rw [evaluate, evaluate, outcome_bind, outcome_bind, h.outcome_eq]
  const_iff _ := iff_of_false Term.noConfusion Term.noConfusion

theorem binary (hab : a.Alike b) (hcd : c.Alike d) (op : BinaryOp) :
    (binary op a c).Alike (binary op b d) where
  isNumeric_eq := by rw [isNumeric, isNumeric, hab.isNumeric_eq, hcd.isNumeric_eq]
  outcome_eq := by
    have hcombine (x y : Number) :=
      outcome_combine (Term.binary op a c) (Term.binary op b d) op x y
    simp only [evaluate, outcome_bind, hab.outcome_eq, hcd.outcome_eq, hcombine]
  const_iff _ := iff_of_false Term.noConfusion Term.noConfusion

end Alike

theorem alike_apply {s r : Substitution}
    (h : ∀ name, ((var name).apply s).Alike ((var name).apply r)) (t : Term) :
    (t.apply s).Alike (t.apply r) := by
  induction t with
  | var name => exact h name
  | const name => exact .refl _
  | num x => exact .refl _
  | minus a ih => exact ih.minus
  | binary op a b iha ihb => exact iha.binary ihb op

end Term

namespace Comparison

structure Alike (c d : Comparison) : Prop where
  op_eq : c.op = d.op
  left : c.left.Alike d.left
  right : c.right.Alike d.right

namespace Alike

variable {c d : Comparison} (h : c.Alike d)

include h

theorem isNumeric_eq : c.isNumeric = d.isNumeric := by
  rw [isNumeric, isNumeric, h.left.isNumeric_eq, h.right.isNumeric_eq]

theorem constants?_eq : c.constants? = d.constants? :=
  constants?_congr h.left.const_iff h.right.const_iff

theorem isEvaluable_eq : c.isEvaluable = d.isEvaluable :=
  isEvaluable_congr h.op_eq h.isNumeric_eq h.constants?_eq

theorem outcome_eq : outcome c.evaluate.value = outcome d.evaluate.value := by
  apply outcome_evaluate_congr h.op_eq h.isNumeric_eq h.constants?_eq
  rw [outcome_reduce_congr h.left.outcome_eq h.right.outcome_eq]

end Alike

theorem alike_apply {s r : Substitution}
    (h : ∀ name, ((Term.var name).apply s).Alike ((Term.var name).apply r)) (c : Comparison) :
    (c.apply s).Alike (c.apply r) where
  op_eq := rfl
  left := Term.alike_apply h c.left
  right := Term.alike_apply h c.right

end Comparison

end PlanComparison
