import PlanComparison.Proofs.Alike
import PlanComparison.Proofs.Composition
import PlanComparison.Proofs.WellFormedness

namespace PlanComparison

namespace Term

inductive ReducesTo : Term → Term → Prop
  | refl (t : Term) : ReducesTo t t
  | value {t : Term} {x : Number} (h : t.evaluate = .ok x) : ReducesTo t (num x)

theorem ReducesTo.alike {t u : Term} (h : t.ReducesTo u) : t.Alike u := by
  cases h with
  | refl => exact .refl t
  | @value x h =>
    refine ⟨isNumeric_of_evaluate h, ?_, ?_⟩
    · rw [h]
      rfl
    · intro name
      refine iff_of_false ?_ Term.noConfusion
      rintro rfl
      cases h

end Term

namespace Substitution

def ReducesTo (s r : Substitution) : Prop :=
  ∀ name, Option.Rel Term.ReducesTo (s.get? name) (r.get? name)

theorem reducesTo_empty : ReducesTo .empty .empty := fun _ => .none

variable {s r : Substitution} (h : s.ReducesTo r)

include h

theorem ReducesTo.insert (name : String) {t u : Term} (ht : t.ReducesTo u) :
    ReducesTo (OrderedMap.insert s name t) (OrderedMap.insert r name u) := by
  intro other
  rw [OrderedMap.get?_insert, OrderedMap.get?_insert]
  split
  · exact .some ht
  · exact h other

theorem ReducesTo.alike_apply_var (name : String) :
    ((Term.var name).apply s).Alike ((Term.var name).apply r) := by
  have hname := h name
  rw [Term.apply_var, Term.apply_var]
  generalize s.get? name = x, r.get? name = y at hname
  cases hname with
  | none => exact .refl _
  | some hbound => exact hbound.alike

end Substitution

theorem NoInvalidArgument.outcome_ne {α : Type} {r : Except Error α} (h : NoInvalidArgument r) :
    outcome r ≠ .error .invalidArgument := by
  cases r with
  | ok a =>
    intro ha
    cases ha
  | error e =>
    intro he
    exact h e rfl (Except.error.inj he)

theorem Substitution.bound_values_do_not_show {s r : Substitution} (h : s.ReducesTo r) :
    (∀ t : Term,
      outcome (t.apply s).evaluate = outcome (t.apply r).evaluate ∧
        outcome (t.apply s).evaluate ≠ .error .invalidArgument) ∧
      (∀ c : Comparison,
        (c.apply s).isEvaluable = (c.apply r).isEvaluable ∧
          outcome (c.apply s).evaluate.value = outcome (c.apply r).evaluate.value ∧
          outcome (c.apply s).evaluate.value ≠ .error .invalidArgument) ∧
      ∀ e : Equality,
        (e.apply s).isEvaluable = (e.apply r).isEvaluable ∧
          outcome (e.apply s).evaluate.value = outcome (e.apply r).evaluate.value ∧
          outcome (e.apply s).evaluate.value ≠ .error .invalidArgument := by
  refine ⟨?_, ?_, ?_⟩
  · intro t
    exact ⟨(Term.alike_apply h.alike_apply_var t).outcome_eq, (t.apply s).noInvalidArgument.outcome_ne⟩
  · intro c
    have halike := Comparison.alike_apply h.alike_apply_var c
    exact ⟨halike.isEvaluable_eq, halike.outcome_eq, (c.apply s).noInvalidArgument.outcome_ne⟩
  · intro e
    have halike := Comparison.alike_apply h.alike_apply_var e.toComparison
    exact ⟨halike.isEvaluable_eq, halike.outcome_eq,
      (e.apply s).toComparison.noInvalidArgument.outcome_ne⟩

theorem Substitution.bound_values_do_not_show_quotient :
    let one : Number := ⟨false, 1023 * binade, by decide⟩
    let two : Number := ⟨false, 1024 * binade, by decide⟩
    let sum : Term := .binary .add (.num one) (.num one)
    let s : Substitution := .ofList [("?x", sum), ("?y", .const "a")]
    let r : Substitution := .ofList [("?x", .num two), ("?y", .const "a")]
    let t : Term := .binary .divide (.var "?x") (.binary .subtract (.var "?x") (.var "?x"))
    let c : Comparison := ⟨.lessEqual, .num two, .minus (.minus (.var "?x"))⟩
    let e : Equality := ⟨.var "?y", .const "a"⟩
    s.ReducesTo r ∧
      outcome (t.apply s).evaluate = .error .divisionByZero ∧
      outcome (t.apply r).evaluate = .error .divisionByZero ∧
      outcome (c.apply s).evaluate.value = .ok true ∧
      outcome (c.apply r).evaluate.value = .ok true ∧
      outcome (e.apply s).evaluate.value = .ok true ∧
      outcome (e.apply r).evaluate.value = .ok true := by
  intro one two sum s r t c e
  have hsum : sum.evaluate = .ok two := by decide +kernel
  have hreduces : s.ReducesTo r :=
    (reducesTo_empty.insert "?x" (.value hsum)).insert "?y" (.refl (.const "a"))
  obtain ⟨hterm, hcomparison, hequality⟩ := bound_values_do_not_show hreduces
  have ht : outcome (t.apply r).evaluate = .error .divisionByZero := by decide +kernel
  have hc : outcome (c.apply r).evaluate.value = .ok true := by decide +kernel
  have he : outcome (e.apply r).evaluate.value = .ok true := by decide +kernel
  exact ⟨hreduces, (hterm t).1.trans ht, ht, (hcomparison c).2.1.trans hc, hc,
    (hequality e).2.1.trans he, he⟩

end PlanComparison
