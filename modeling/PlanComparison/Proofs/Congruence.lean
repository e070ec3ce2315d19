import PlanComparison.Proofs.Outcome
import PlanComparison.Proofs.SignedZeros

/-!
Equality up to the signs of zeros is a congruence for evaluation: equal terms reduce to equal
numbers or fail for one kind of reason, and equal comparisons have one outcome. No operation is
ever given a zero divisor, so no reduction brings the sign of a zero to light.
-/

namespace PlanComparison

section Agreement

variable {α β : Type}

inductive Agree (r : α → α → Prop) : Except Error α → Except Error α → Prop
  | ok {a b : α} (h : r a b) : Agree r (.ok a) (.ok b)
  | error {d e : Error} (h : d.kind = e.kind) : Agree r (.error d) (.error e)

namespace Agree

variable {r : α → α → Prop} {x y : Except Error α} (h : Agree r x y)

include h

theorem bind {q : β → β → Prop} {f g : α → Except Error β}
    (hfg : ∀ a b, r a b → Agree q (f a) (g b)) : Agree q (x >>= f) (y >>= g) := by
  cases h with
  | ok hab => exact hfg _ _ hab
  | error hkind => exact .error hkind

theorem outcome_map {f : α → β} (hf : ∀ a b, r a b → f a = f b) :
    (outcome x).map f = (outcome y).map f := by
  cases h with
  | ok hab => exact congrArg Except.ok (hf _ _ hab)
  | error hkind => exact congrArg Except.error hkind

end Agree

end Agreement

theorem Comparator.holds_congr (op : Comparator) {x x' y y' : Number} (hx : x.same x' = true)
    (hy : y.same y' = true) : op.holds x y = op.holds x' y' := by
  rw [Number.same_iff] at hx hy
  cases op <;> simp only [holds, Number.same, Number.lt, Number.le, hx, hy]

theorem BinaryOp.alike_apply (op : BinaryOp) {x x' y y' : Number} (hx : x.same x' = true)
    (hy : y.same y' = true) (hdivisor : ¬(op = divide ∧ y.isZero = true)) :
    (op.apply x y).Alike (op.apply x' y') := by
  cases op with
  | add => exact Number.alike_add hx hy
  | subtract => exact Number.alike_add hx (Number.same_neg hy)
  | multiply => exact Number.alike_mul hx hy
  | divide => exact Number.alike_div hx hy (by simpa using hdivisor)

namespace Term

theorem agree_combine (t u : Term) (op : BinaryOp) {x x' y y' : Number} (hx : x.same x' = true)
    (hy : y.same y' = true) :
    Agree (Number.same · ·) (t.combine op x y) (u.combine op x' y') := by
  unfold combine
  rw [← Number.isZero_eq_of_same hy]
  -- Either zero is refused as a divisor before anything is divided.
  by_cases hdivisor : op = .divide ∧ y.isZero = true
  · rw [if_pos hdivisor, if_pos hdivisor]
    exact .error rfl
  · rw [if_neg hdivisor, if_neg hdivisor]
    have halike := op.alike_apply hx hy hdivisor
    generalize op.apply x y = v, op.apply x' y' = w at halike
    cases halike with
    | finite h => exact .ok h
    | nonFinite hv hw => cases v <;> cases hv <;> cases w <;> cases hw <;> exact .error rfl

variable {t u : Term} (h : t.same u = true)

include h

theorem agree_evaluate : Agree (Number.same · ·) t.evaluate u.evaluate := by
  fun_induction same t u with
  | case1 x y => exact .error rfl
  | case2 m n => exact .error rfl
  | case3 x y => exact .ok h
  | case4 a b ih => exact (ih h).bind fun x y hxy => .ok (Number.same_neg hxy)
  | case5 op a b op' a' b' iha ihb =>
    simp only [Bool.and_eq_true, beq_iff_eq] at h
    obtain ⟨⟨rfl, ha⟩, hb⟩ := h
    exact (iha ha).bind fun x x' hx => (ihb hb).bind fun y y' hy => agree_combine _ _ op hx hy
  | case6 t u => cases h

theorem isNumeric_eq_of_same : t.isNumeric = u.isNumeric := by
  fun_induction same t u with
  | case1 x y => rfl
  | case2 m n => rfl
  | case3 x y => rfl
  | case4 a b ih => exact ih h
  | case5 op a b op' a' b' iha ihb =>
    simp only [Bool.and_eq_true] at h
    rw [isNumeric, isNumeric, iha h.1.2, ihb h.2]
  | case6 t u => cases h

theorem const_iff_of_same (name : String) : t = const name ↔ u = const name := by
  fun_induction same t u with
  | case2 m n => rw [eq_of_beq h]
  | case6 t u => cases h
  | _ => exact iff_of_false Term.noConfusion Term.noConfusion

end Term

namespace Comparison

variable {c d : Comparison}

theorem same_iff : c.same d = true ↔
    c.op = d.op ∧ c.left.same d.left = true ∧ c.right.same d.right = true := by
  rw [same, Bool.and_eq_true_iff, Bool.and_eq_true_iff, beq_iff_eq, and_assoc]

variable (h : c.same d = true)

include h

theorem isNumeric_eq_of_same : c.isNumeric = d.isNumeric := by
  obtain ⟨-, hleft, hright⟩ := same_iff.mp h
  rw [isNumeric, isNumeric, Term.isNumeric_eq_of_same hleft, Term.isNumeric_eq_of_same hright]

theorem constants?_eq_of_same : c.constants? = d.constants? := by
  obtain ⟨-, hleft, hright⟩ := same_iff.mp h
  exact constants?_congr (Term.const_iff_of_same hleft) (Term.const_iff_of_same hright)

theorem agree_reduce :
    Agree (fun p q => p.1.same q.1 = true ∧ p.2.same q.2 = true) c.reduce d.reduce := by
  obtain ⟨-, hleft, hright⟩ := same_iff.mp h
  apply (Term.agree_evaluate hleft).bind
  intro x x' hx
  apply (Term.agree_evaluate hright).bind
  intro y y' hy
  exact .ok ⟨hx, hy⟩

theorem isEvaluable_eq_of_same : c.isEvaluable = d.isEvaluable :=
  isEvaluable_congr (same_iff.mp h).1 (isNumeric_eq_of_same h) (constants?_eq_of_same h)

theorem outcome_eq_of_same : outcome c.evaluate.value = outcome d.evaluate.value := by
  apply outcome_evaluate_congr (same_iff.mp h).1 (isNumeric_eq_of_same h) (constants?_eq_of_same h)
  exact (agree_reduce h).outcome_map fun p q hpq => c.op.holds_congr hpq.1 hpq.2

end Comparison

namespace Term

theorem equality_is_congruence :
    (∀ t u : Term, t.same u = true → Agree (Number.same · ·) t.evaluate u.evaluate) ∧
      (∀ c d : Comparison, c.same d = true →
        c.isEvaluable = d.isEvaluable ∧
          outcome c.evaluate.value = outcome d.evaluate.value) ∧
      ∀ e f : Equality, e.same f = true →
        e.isEvaluable = f.isEvaluable ∧ outcome e.evaluate.value = outcome f.evaluate.value := by
  refine ⟨?_, ?_, ?_⟩
  · intro t u h
    exact agree_evaluate h
  · intro c d h
    exact ⟨Comparison.isEvaluable_eq_of_same h, Comparison.outcome_eq_of_same h⟩
  · intro e f h
    exact ⟨Comparison.isEvaluable_eq_of_same (c := e.toComparison) h,
      Comparison.outcome_eq_of_same (c := e.toComparison) h⟩

/-- The sums are zeros of different signs, and so are the products. -/
theorem equality_is_congruence_zeros :
    let zero : Term := .num ⟨false, 0, by decide⟩
    let negated : Term := .num ⟨true, 0, by decide⟩
    let one : Term := .num ⟨false, 1023 * binade, by decide⟩
    let t : Term := .binary .divide one (.binary .add zero zero)
    let u : Term := .binary .divide one (.binary .add negated negated)
    let c : Comparison := ⟨.less, .binary .multiply one negated, .minus negated⟩
    let d : Comparison := ⟨.less, .binary .multiply one zero, .minus zero⟩
    let e : Equality := ⟨.binary .add negated negated, zero⟩
    let f : Equality := ⟨.binary .add zero zero, negated⟩
    t.same u = true ∧ Agree (Number.same · ·) t.evaluate u.evaluate ∧
      t.evaluate = .error (.divisionByZero t) ∧ u.evaluate = .error (.divisionByZero u) ∧
      c.same d = true ∧ c.isEvaluable = true ∧ d.isEvaluable = true ∧
      outcome c.evaluate.value = .ok false ∧ outcome d.evaluate.value = .ok false ∧
      e.same f = true ∧ outcome e.evaluate.value = .ok true ∧
      outcome f.evaluate.value = .ok true := by
  intro zero negated one t u c d e f
  obtain ⟨hterm, hcomparison, hequality⟩ := equality_is_congruence
  have htu : t.same u = true := by decide +kernel
  have hcd : c.same d = true := by decide +kernel
  have hef : e.same f = true := by decide +kernel
  have ht : t.evaluate = .error (.divisionByZero t) := by decide +kernel
  have hu : u.evaluate = .error (.divisionByZero u) := by decide +kernel
  have hc : c.isEvaluable = true := rfl
  have hcoutcome : outcome c.evaluate.value = .ok false := by decide +kernel
  have heoutcome : outcome e.evaluate.value = .ok true := by decide +kernel
  exact ⟨htu, hterm t u htu, ht, hu, hcd, hc, (hcomparison c d hcd).1.symm.trans hc, hcoutcome,
    (hcomparison c d hcd).2.symm.trans hcoutcome, hef, heoutcome,
    (hequality e f hef).2.symm.trans heoutcome⟩

end Term

end PlanComparison
