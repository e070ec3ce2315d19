import Mathlib.Logic.Basic
import PlanComparison.Proofs.Distinct
import PlanComparison.Proofs.Expression

namespace PlanComparison

theorem Term.vars_subset_iff {t : Term} {names : List String} :
    t.vars ⊆ names ↔ t.occurrences ⊆ names :=
  distinct_subset_iff _ _

theorem Comparison.vars_subset_iff {c : Comparison} {names : List String} :
    c.vars ⊆ names ↔ c.left.occurrences ⊆ names ∧ c.right.occurrences ⊆ names := by
  rw [vars, distinct_subset_iff, List.append_subset]

theorem Term.isGround_iff (t : Term) : t.isGround = true ↔ t.occurrences = [] := by
  induction t with
  | var name => exact iff_of_false Bool.false_ne_true (List.cons_ne_nil _ _)
  | const name => exact iff_of_true rfl rfl
  | num x => exact iff_of_true rfl rfl
  | minus a ih => exact ih
  | binary op a b iha ihb =>
    rw [isGround, Bool.and_eq_true_iff, iha, ihb, occurrences, List.append_eq_nil_iff]

theorem Term.isGround_of_isNumeric {t : Term} (h : t.isNumeric = true) : t.isGround = true := by
  induction t with
  | var name => cases h
  | const name => rfl
  | num x => rfl
  | minus a ih => exact ih h
  | binary op a b iha ihb =>
    have hab := Bool.and_eq_true_iff.mp h
    exact Bool.and_eq_true_iff.mpr ⟨iha hab.1, ihb hab.2⟩

theorem Term.contains_var_iff (t : Term) (name : String) :
    t.contains (var name) = true ↔ name ∈ t.occurrences := by
  induction t with
  | var x =>
    have hsame : (var x).contains (var name) = (x == name) := rfl
    rw [hsame, beq_iff_eq, occurrences, List.mem_singleton]
    exact eq_comm
  | const x => exact iff_of_false Bool.false_ne_true List.not_mem_nil
  | num x => exact iff_of_false Bool.false_ne_true List.not_mem_nil
  | minus a ih => exact ih
  | binary op a b iha ihb =>
    rw [occurrences, List.mem_append, ← iha, ← ihb]
    exact Bool.or_eq_true_iff

theorem Comparison.isGround_iff (c : Comparison) : c.isGround = true ↔ c.vars = [] := by
  rw [isGround, Bool.and_eq_true_iff, Term.isGround_iff, Term.isGround_iff, vars,
    distinct_eq_nil_iff, List.append_eq_nil_iff]

namespace Expression

def vars : Expression → List String
  | term t => t.vars
  | comparison c => c.vars
  | equality e => e.vars

def occurrences : Expression → List String
  | term t => t.occurrences
  | comparison c => c.left.occurrences ++ c.right.occurrences
  | equality e => e.left.occurrences ++ e.right.occurrences

theorem occurrences_eq_flatMap (x : Expression) :
    x.occurrences = x.terms.flatMap Term.occurrences := by
  cases x <;> simp [occurrences, terms]

theorem vars_eq_distinct (x : Expression) : x.vars = distinct x.occurrences := by
  cases x <;> rfl

def isGround : Expression → Bool
  | term t => t.isGround
  | comparison c => c.isGround
  | equality e => e.isGround

theorem isGround_iff (x : Expression) : x.isGround = true ↔ x.vars = [] := by
  cases x with
  | term t => exact t.isGround_iff.trans (distinct_eq_nil_iff _).symm
  | comparison c => exact c.isGround_iff
  | equality e => exact e.toComparison.isGround_iff

def contains : Expression → Term → Bool
  | term t => t.contains
  | comparison c => c.contains
  | equality e => e.contains

theorem contains_iff_exists (x : Expression) (t : Term) :
    x.contains t = true ↔ ∃ u ∈ x.terms, u.contains t = true := by
  cases x <;> simp [contains, Equality.contains, Equality.toComparison, Comparison.contains, terms]

theorem contains_var_iff (x : Expression) (name : String) :
    x.contains (.var name) = true ↔ name ∈ x.vars := by
  rw [contains_iff_exists, vars_eq_distinct, mem_distinct, occurrences_eq_flatMap,
    List.mem_flatMap]
  simp only [Term.contains_var_iff]

end Expression

end PlanComparison
