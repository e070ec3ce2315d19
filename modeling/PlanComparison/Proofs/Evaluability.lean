import PlanComparison.Proofs.Outcome

namespace PlanComparison

structure Foretold (c : Comparison) (evaluable : Bool) (outcome : Except Error Bool) : Prop where
  refused : evaluable = false → outcome = .error (.comparisonNotEvaluable c)
  calculated : evaluable = true → Calculated outcome

namespace Foretold

variable {c : Comparison} {evaluable : Bool} {outcome : Except Error Bool}

theorem of_calculated (h : Calculated outcome) : Foretold c true outcome where
  refused he := by cases he
  calculated _ := h

theorem of_refuse (c : Comparison) : Foretold c false c.refuse.value where
  refused _ := rfl
  calculated he := by cases he

theorem notEvaluable_iff (h : Foretold c evaluable outcome) :
    (∃ e, outcome = .error e ∧ e.kind = .notEvaluable) ↔ evaluable = false := by
  constructor
  · rintro ⟨e, herr, hkind⟩
    cases evaluable with
    | false => rfl
    | true => exact absurd hkind ((h.calculated rfl).kind_ne herr)
  · intro he
    exact ⟨_, h.refused he, rfl⟩

end Foretold

namespace Comparison

def parts (c : Comparison) : List Term := c.left.parts ++ c.right.parts

theorem foretold_evaluate (c : Comparison) : Foretold c c.isEvaluable c.evaluate.value := by
  rw [isEvaluable_eq_or]
  cases hnum : c.isNumeric with
  | true =>
    rw [evaluate_of_isNumeric hnum]
    exact .of_calculated ((calculated_reduce hnum).map _)
  | false =>
    rw [evaluate_of_not_isNumeric hnum]
    cases c.nameVerdict with
    | some v => exact .of_calculated (.inl ⟨v, rfl⟩)
    | none => exact .of_refuse c

theorem isNumeric_of_mem_parts {c : Comparison} {t : Term} (h : c.isNumeric = true)
    (ht : t ∈ c.parts) : t.isNumeric = true := by
  have hab := Bool.and_eq_true_iff.mp h
  rcases List.mem_append.mp ht with ht | ht
  · exact Term.isNumeric_of_mem_parts hab.1 ht
  · exact Term.isNumeric_of_mem_parts hab.2 ht

theorem constants?_of_fault {c : Comparison} {t : Term} {e : Error} (ht : t ∈ c.parts)
    (he : t.evaluate = .error e) (hkind : e.IsArithmetic) : c.constants? = none := by
  obtain ⟨op, left, right⟩ := c
  cases left with
  | const a =>
    cases right with
    | const b =>
      have hname : t = .const a ∨ t = .const b := by simpa [parts, Term.parts] using ht
      rcases hname with rfl | rfl
      · exact absurd hkind (Term.not_isArithmetic_of_const he)
      · exact absurd hkind (Term.not_isArithmetic_of_const he)
    | _ => rfl
  | _ => rfl

theorem isEvaluable_of_name {c : Comparison} {name : String} (hconst : c.constants? = none)
    (hname : .var name ∈ c.parts ∨ .const name ∈ c.parts) : c.isEvaluable = false := by
  have hnum : c.isNumeric = false := by
    cases h : c.isNumeric with
    | false => rfl
    | true =>
      rcases hname with hname | hname
      · cases isNumeric_of_mem_parts h hname
      · cases isNumeric_of_mem_parts h hname
  rw [isEvaluable_eq_or, hnum, nameVerdict, hconst]
  rfl

theorem evaluability_is_exact :
    (∀ c : Comparison,
      ((∃ e, c.evaluate.value = .error e ∧ e.kind = .notEvaluable) ↔ c.isEvaluable = false) ∧
        (c.isEvaluable = true → Calculated c.evaluate.value)) ∧
      (∀ q : Equality,
        ((∃ e, q.evaluate.value = .error e ∧ e.kind = .notEvaluable) ↔ q.isEvaluable = false) ∧
          (q.isEvaluable = true → Calculated q.evaluate.value)) ∧
      ∀ (c : Comparison) (fault : Term) (e : Error) (name : String),
        fault ∈ c.parts → fault.evaluate = .error e → e.IsArithmetic →
          .var name ∈ c.parts ∨ .const name ∈ c.parts →
            c.evaluate.value = .error (.comparisonNotEvaluable c) := by
  refine ⟨?_, ?_, ?_⟩
  · intro c
    exact ⟨c.foretold_evaluate.notEvaluable_iff, c.foretold_evaluate.calculated⟩
  · intro q
    have h : Foretold q.toComparison q.isEvaluable q.evaluate.value :=
      q.toComparison.foretold_evaluate
    exact ⟨h.notEvaluable_iff, h.calculated⟩
  · intro c fault e name hfault he hkind hname
    exact c.foretold_evaluate.refused
      (isEvaluable_of_name (constants?_of_fault hfault he hkind) hname)

theorem evaluability_is_exact_quotient :
    let zero : Term := .num ⟨false, 0, by decide⟩
    let quotient : Term := .binary .divide zero zero
    let closed : Comparison := ⟨.less, zero, quotient⟩
    let mixed : Comparison := ⟨.notEqual, .binary .add quotient (.var "?x"), .const "a"⟩
    closed.isEvaluable = true ∧ Calculated closed.evaluate.value ∧
      quotient ∈ mixed.parts ∧ .var "?x" ∈ mixed.parts ∧
      quotient.evaluate = .error (.divisionByZero quotient) ∧
      mixed.evaluate.value = .error (.comparisonNotEvaluable mixed) := by
  intro zero quotient closed mixed
  have hclosed : closed.isEvaluable = true := rfl
  have hfault : quotient ∈ mixed.parts := .tail _ (.tail _ (.head _))
  have hname : .var "?x" ∈ mixed.parts := .tail _ (.tail _ (.tail _ (.head _)))
  have heval : quotient.evaluate = .error (.divisionByZero quotient) := rfl
  exact ⟨hclosed, (evaluability_is_exact.1 closed).2 hclosed, hfault, hname, heval,
    evaluability_is_exact.2.2 mixed quotient _ "?x" hfault heval (.inl rfl) (.inl hname)⟩

end Comparison

end PlanComparison
