import PlanComparison.Proofs.Evaluability
import PlanComparison.Proofs.Variables

namespace PlanComparison

namespace Term

def collect : Term → List String → List String
  | var name, found => if name ∈ found then found else found ++ [name]
  | const _, found => found
  | num _, found => found
  | minus a, found => a.collect found
  | binary _ a b, found => b.collect (a.collect found)

theorem collect_distinct (t : Term) (names : List String) :
    t.collect (distinct names) = distinct (names ++ t.occurrences) := by
  induction t generalizing names with
  | var name =>
    have hname : distinct [name] = [name] := rfl
    rw [collect, occurrences, distinct_append, hname]
    by_cases h : name ∈ names
    · rw [if_pos ((mem_distinct name names).mpr h)]
      simp [h]
    · rw [if_neg (mt (mem_distinct name names).mp h)]
      simp [h]
  | const name => rw [collect, occurrences, List.append_nil]
  | num x => rw [collect, occurrences, List.append_nil]
  | minus a ih => exact ih names
  | binary op a b iha ihb => rw [collect, iha, ihb, occurrences, List.append_assoc]

theorem var_mem_parts_iff (t : Term) (name : String) :
    var name ∈ t.parts ↔ name ∈ t.occurrences := by
  induction t with
  | var x => simp [parts, occurrences]
  | const x => simp [parts, occurrences]
  | num x => simp [parts, occurrences]
  | minus a ih => simp [parts, occurrences, ih]
  | binary op a b iha ihb => simp [parts, occurrences, iha, ihb]

end Term

namespace Expression

def parts : Expression → List Term
  | term t => t.parts
  | comparison c => c.parts
  | equality e => e.toComparison.parts

def collect (x : Expression) (found : List String) : List String :=
  x.terms.foldl (fun found t => t.collect found) found

variable (x : Expression)

theorem mem_parts_iff (u : Term) : u ∈ x.parts ↔ ∃ t ∈ x.terms, u ∈ t.parts := by
  cases x <;> simp [parts, Equality.toComparison, Comparison.parts, terms]

theorem collect_distinct (names : List String) :
    x.collect (distinct names) = distinct (names ++ x.occurrences) := by
  rw [collect, occurrences_eq_flatMap]
  induction x.terms generalizing names with
  | nil => rw [List.foldl_nil, List.flatMap_nil, List.append_nil]
  | cons t ts ih =>
    rw [List.foldl_cons, t.collect_distinct, ih, List.flatMap_cons, List.append_assoc]

theorem collect_nil : x.collect [] = x.vars := by
  rw [vars_eq_distinct]
  exact x.collect_distinct []

theorem nodup_vars : x.vars.Nodup := by
  rw [vars_eq_distinct]
  exact nodup_distinct _

theorem var_mem_parts_iff (name : String) : .var name ∈ x.parts ↔ name ∈ x.vars := by
  rw [vars_eq_distinct, mem_distinct, occurrences_eq_flatMap, List.mem_flatMap, mem_parts_iff]
  simp only [Term.var_mem_parts_iff]

theorem isGround_iff_forall_parts : x.isGround = true ↔ ∀ name, .var name ∉ x.parts := by
  simp only [isGround_iff, var_mem_parts_iff, List.eq_nil_iff_forall_not_mem]

theorem variables_are_what_occurs :
    (∀ x : Expression,
      (x.isGround = true ↔ x.vars = []) ∧
        (x.isGround = true ↔ ∀ name, .var name ∉ x.parts) ∧
        (∀ name, x.contains (.var name) = true ↔ name ∈ x.vars) ∧
        (∀ name, .var name ∈ x.parts ↔ name ∈ x.vars) ∧
        x.vars.Nodup ∧ x.collect [] = x.vars) ∧
      ∀ t : Term, t.isNumeric = true → t.isGround = true := by
  refine ⟨?_, ?_⟩
  · intro x
    exact ⟨x.isGround_iff, x.isGround_iff_forall_parts, x.contains_var_iff, x.var_mem_parts_iff,
      x.nodup_vars, x.collect_nil⟩
  · intro t h
    exact Term.isGround_of_isNumeric h

theorem variables_are_what_occurs_repeated :
    let one : Term := .num ⟨false, 1023 * binade, by decide⟩
    let x : Expression := .comparison
      ⟨.lessEqual, .binary .add (.var "?y") (.const "a"), .binary .multiply one (.var "?y")⟩
    x.vars = ["?y"] ∧ x.collect [] = ["?y"] ∧ x.isGround = false ∧
      .var "?y" ∈ x.parts ∧ x.contains (.var "?y") = true ∧ x.contains (.var "?x") = false ∧
      one.minus.isNumeric = true ∧ one.minus.isGround = true := by
  intro one x
  obtain ⟨hoccurs, hnumeric⟩ := variables_are_what_occurs
  obtain ⟨hground, -, hcontains, hparts, -, hcollect⟩ := hoccurs x
  have hvars : x.vars = ["?y"] := by decide +kernel
  have hy : "?y" ∈ x.vars := by rw [hvars]; exact List.mem_singleton_self _
  have hx : "?x" ∉ x.vars := by rw [hvars]; decide
  have hone : one.minus.isNumeric = true := rfl
  refine ⟨hvars, hcollect.trans hvars, ?_, (hparts "?y").mpr hy, (hcontains "?y").mpr hy, ?_, hone,
    hnumeric one.minus hone⟩
  · rw [Bool.eq_false_iff, Ne, hground, hvars]
    exact List.cons_ne_nil _ _
  · rw [Bool.eq_false_iff, Ne, hcontains]
    exact hx

end Expression

end PlanComparison
