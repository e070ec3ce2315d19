import PlanComparison.Proofs.Alike
import PlanComparison.Proofs.RenamedSubstitution

namespace PlanComparison

open Renaming

namespace Comparison

theorem isGround_of_isNumeric {c : Comparison} (h : c.isNumeric = true) : c.isGround = true := by
  have hab := Bool.and_eq_true_iff.mp h
  exact Bool.and_eq_true_iff.mpr
    ⟨Term.isGround_of_isNumeric hab.1, Term.isGround_of_isNumeric hab.2⟩

theorem isGround_of_isEvaluable {c : Comparison} (h : c.isEvaluable = true) :
    c.isGround = true := by
  rw [isEvaluable_eq_or, Bool.or_eq_true_iff] at h
  rcases h with hnum | hverdict
  · exact isGround_of_isNumeric hnum
  · obtain ⟨v, hv⟩ := Option.isSome_iff_exists.mp hverdict
    obtain ⟨⟨a, b⟩, hab, -⟩ := Option.bind_eq_some_iff.mp hv
    obtain ⟨hleft, hright⟩ := constants?_eq_some_iff.mp hab
    rw [isGround, hleft, hright]
    rfl

end Comparison

theorem Term.apply_of_isGround {t : Term} (h : t.isGround = true) (s : Substitution) :
    t.apply s = t := by
  induction t with
  | var name => cases h
  | const name => rfl
  | num x => rfl
  | minus a ih => exact congrArg minus (ih h)
  | binary op a b iha ihb =>
    have hab := Bool.and_eq_true_iff.mp h
    exact congrArg₂ (binary op) (iha hab.1) (ihb hab.2)

theorem Comparison.apply_of_isGround {c : Comparison} (h : c.isGround = true) (s : Substitution) :
    c.apply s = c := by
  have hab := Bool.and_eq_true_iff.mp h
  rw [apply, Term.apply_of_isGround hab.1, Term.apply_of_isGround hab.2]

theorem Expression.apply_of_isGround {x : Expression} (h : x.isGround = true) (s : Substitution) :
    x.apply s = x := by
  cases x with
  | term t => exact congrArg term (Term.apply_of_isGround h s)
  | comparison c => exact congrArg comparison (Comparison.apply_of_isGround h s)
  | equality e =>
    have hsides := Comparison.apply_of_isGround (c := e.toComparison) h s
    exact congrArg equality (Equality.toComparison_inj hsides)

theorem Expression.settles_of_isGround {x : Expression} (h : x.isGround = true) (c : Context) :
    Settles x.standardize c x := by
  have hvars : x.vars ⊆ c.images.keys := by
    rw [x.isGround_iff.mp h]
    exact List.nil_subset _
  have hsettles := settles_standardize hvars
  rw [apply_of_isGround h] at hsettles
  exact hsettles

namespace Term

variable (t : Term) (c : Context)

theorem isGround_apply_renaming : (t.apply c.renaming).isGround = t.isGround := by
  induction t with
  | var name => rw [c.apply_renaming_var, isGround, isGround]
  | const name => rfl
  | num x => rfl
  | minus a ih => exact ih
  | binary op a b iha ihb => rw [apply, isGround, iha, ihb, isGround]

end Term

namespace Comparison

variable (x : Comparison) (c : Context)

theorem isGround_apply_renaming : (x.apply c.renaming).isGround = x.isGround := by
  rw [apply, isGround, Term.isGround_apply_renaming, Term.isGround_apply_renaming, isGround]

theorem alike_apply_renaming : (x.apply c.renaming).Alike x := by
  have hvar (name : String) :
      ((Term.var name).apply c.renaming).Alike ((Term.var name).apply .empty) := by
    rw [c.apply_renaming_var]
    exact ⟨rfl, rfl, fun _ => iff_of_false Term.noConfusion Term.noConfusion⟩
  have hempty : x.apply .empty = x := by rw [apply, Term.apply_empty, Term.apply_empty]
  have halike := alike_apply hvar x
  rwa [hempty] at halike

end Comparison

namespace Expression

theorem ground_expressions_are_stable :
    (∀ x : Comparison, x.isEvaluable = true → x.isGround = true) ∧
      (∀ e : Equality, e.isEvaluable = true → e.isGround = true) ∧
      (∀ x : Expression, x.isGround = true → ∀ (s : Substitution) (c : Context),
        x.apply s = x ∧ x.standardize c = ⟨(x, c), []⟩) ∧
      (∀ (x : Comparison) (c : Context),
        let y := result x.standardize c
        y.isGround = x.isGround ∧ y.isNumeric = x.isNumeric ∧ y.isEvaluable = x.isEvaluable ∧
          outcome y.evaluate.value = outcome x.evaluate.value) ∧
      ∀ (e : Equality) (c : Context),
        let f := result e.standardize c
        f.isGround = e.isGround ∧ f.isNumeric = e.isNumeric ∧ f.isEvaluable = e.isEvaluable ∧
          outcome f.evaluate.value = outcome e.evaluate.value := by
  have hrenamed (x : Comparison) (c : Context) :
      let y := x.apply c.renaming
      y.isGround = x.isGround ∧ y.isNumeric = x.isNumeric ∧ y.isEvaluable = x.isEvaluable ∧
        outcome y.evaluate.value = outcome x.evaluate.value := by
    have halike := x.alike_apply_renaming c
    exact ⟨x.isGround_apply_renaming c, halike.isNumeric_eq, halike.isEvaluable_eq,
      halike.outcome_eq⟩
  refine ⟨?_, ?_, ?_, ?_, ?_⟩
  · intro x h
    exact Comparison.isGround_of_isEvaluable h
  · intro e h
    exact Comparison.isGround_of_isEvaluable (c := e.toComparison) h
  · intro x h s c
    exact ⟨apply_of_isGround h s, settles_of_isGround h c⟩
  · intro x c y
    have hy : y = x.apply (final x.standardize c).renaming := x.standardize_eq_apply .refl
    rw [hy]
    exact hrenamed x _
  · intro e c f
    have hf : f = e.apply (final e.standardize c).renaming := e.standardize_eq_apply .refl
    rw [hf]
    exact hrenamed e.toComparison _

theorem ground_expressions_are_stable_quotient :
    let zero : Term := .num ⟨false, 0, by decide⟩
    let x : Comparison := ⟨.less, zero, .binary .divide (.minus zero) zero⟩
    let s : Substitution := .ofList [("?x", zero)]
    let c := Context.new.serve [.image "?x"]
    x.isEvaluable = true ∧ x.isGround = true ∧ (comparison x).apply s = comparison x ∧
      (comparison x).standardize c = ⟨(comparison x, c), []⟩ := by
  intro zero x s c
  obtain ⟨hevaluable, -, hstable, -⟩ := ground_expressions_are_stable
  have hx : x.isEvaluable = true := rfl
  have hground : x.isGround = true := hevaluable x hx
  exact ⟨hx, hground, hstable (comparison x) hground s c⟩

end Expression

end PlanComparison
