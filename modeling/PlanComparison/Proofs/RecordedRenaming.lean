import Mathlib.Logic.Basic
import PlanComparison.Proofs.Allocation

namespace PlanComparison

open Renaming

def Context.renaming (c : Context) : Substitution := c.images.map Term.var

theorem Context.apply_renaming {c : Context} {name image : String}
    (h : c.images.get? name = some image) : (Term.var name).apply c.renaming = .var image := by
  change ((c.images.map Term.var).get? name).getD (.var name) = _
  rw [OrderedMap.get?_map, h]
  rfl

theorem Term.standardize_eq_apply (t : Term) {c d : Context}
    (h : (final t.standardize c).Grows d) : result t.standardize c = t.apply d.renaming := by
  induction t generalizing c with
  | var name => exact (Context.apply_renaming (h.get? (get?_final_imageOf name c))).symm
  | const name => rfl
  | num x => rfl
  | minus a ih => exact congrArg Term.minus (ih h)
  | binary op a b iha ihb =>
    -- What the right operand adds comes after the images of the left one.
    have ha := iha ((b.standardize_grows _).trans h)
    exact congrArg₂ (Term.binary op) ha (ihb h)

theorem Comparison.standardize_eq_apply (x : Comparison) {c d : Context}
    (h : (final x.standardize c).Grows d) : result x.standardize c = x.apply d.renaming := by
  have hleft := x.left.standardize_eq_apply ((x.right.standardize_grows _).trans h)
  exact congrArg₂ (Comparison.mk x.op) hleft (x.right.standardize_eq_apply h)

theorem Equality.standardize_eq_apply (x : Equality) {c d : Context}
    (h : (final x.standardize c).Grows d) : result x.standardize c = x.apply d.renaming := by
  have hleft := x.left.standardize_eq_apply ((x.right.standardize_grows _).trans h)
  exact congrArg₂ Equality.mk hleft (x.right.standardize_eq_apply h)

namespace Expression

theorem standardize_eq_apply (x : Expression) {c d : Context}
    (h : (final x.standardize c).Grows d) : result x.standardize c = x.apply d.renaming := by
  cases x with
  | term t => exact congrArg term (t.standardize_eq_apply h)
  | comparison x => exact congrArg comparison (x.standardize_eq_apply h)
  | equality x => exact congrArg equality (x.standardize_eq_apply h)

theorem mapM_standardize_grows (xs : List Expression) (c : Context) :
    c.Grows (final (xs.mapM standardize) c) := by
  induction xs generalizing c with
  | nil => exact .refl
  | cons x xs ih =>
    rw [List.mapM_cons]
    exact (x.standardize_grows c).trans (ih _)

theorem mapM_standardize_eq_map (xs : List Expression) {c d : Context}
    (h : (final (xs.mapM standardize) c).Grows d) :
    result (xs.mapM standardize) c = xs.map (apply d.renaming) := by
  induction xs generalizing c with
  | nil => rfl
  | cons x xs ih =>
    rw [List.mapM_cons] at h ⊢
    have hhead := x.standardize_eq_apply ((mapM_standardize_grows xs _).trans h)
    exact congrArg₂ List.cons hhead (ih h)

theorem standardize_is_renaming (start : Context) (sources : List Expression) :
    let pass := sources.mapM standardize
    result pass start = sources.map (apply (final pass start).renaming) :=
  mapM_standardize_eq_map sources .refl

end Expression

end PlanComparison
