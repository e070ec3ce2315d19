import PlanComparison.Proofs.Composition
import PlanComparison.Proofs.Variables

namespace PlanComparison

namespace Substitution

variable (s : Substitution)

def varsAt (name : String) : List String := (s.get? name).elim [name] Term.vars

theorem vars_apply_var (name : String) : ((Term.var name).apply s).vars = s.varsAt name := by
  rw [Term.apply_var, varsAt]
  cases s.get? name with
  | none => rfl
  | some t => rfl

theorem mem_varsAt_iff (x name : String) : x ∈ s.varsAt name ↔
    s.get? name = none ∧ x = name ∨ ∃ t, s.get? name = some t ∧ x ∈ t.vars := by
  rw [varsAt]
  cases s.get? name with
  | none => simp
  | some t => simp

end Substitution

namespace Term

theorem occurrences_apply (s : Substitution) (t : Term) :
    (t.apply s).occurrences =
      t.occurrences.flatMap fun name => ((var name).apply s).occurrences := by
  induction t with
  | var name => rw [occurrences, List.flatMap_singleton]
  | const name => rfl
  | num x => rfl
  | minus a ih => exact ih
  | binary op a b iha ihb => rw [apply, occurrences, iha, ihb, occurrences, List.flatMap_append]

end Term

namespace Expression

variable (s : Substitution) (x : Expression)

theorem occurrences_apply : (x.apply s).occurrences =
    x.occurrences.flatMap fun name => ((Term.var name).apply s).occurrences := by
  simp only [occurrences_eq_flatMap, terms_apply, List.flatMap_map, List.flatMap_assoc,
    ← Term.occurrences_apply]

theorem vars_apply : (x.apply s).vars = distinct (x.vars.flatMap s.varsAt) := by
  have hblocks (name : String) :
      distinct ((Term.var name).apply s).occurrences = distinct (s.varsAt name) := by
    rw [← s.vars_apply_var, Term.vars, distinct_distinct]
  rw [vars_eq_distinct, occurrences_apply, vars_eq_distinct, distinct_flatMap_distinct]
  exact distinct_flatMap_congr _ _ hblocks x.occurrences

theorem mem_vars_apply_iff (name : String) : name ∈ (x.apply s).vars ↔
    name ∈ x.vars ∧ s.get? name = none ∨
      ∃ v ∈ x.vars, ∃ t, s.get? v = some t ∧ t.contains (.var name) = true := by
  rw [vars_apply, mem_distinct, List.mem_flatMap]
  simp only [s.mem_varsAt_iff, Term.contains_var_iff, Term.vars, mem_distinct]
  constructor
  · rintro ⟨v, hv, ⟨hnone, rfl⟩ | hbound⟩
    · exact .inl ⟨hv, hnone⟩
    · exact .inr ⟨v, hv, hbound⟩
  · rintro (⟨hname, hnone⟩ | ⟨v, hv, hbound⟩)
    · exact ⟨name, hname, .inl ⟨hnone, rfl⟩⟩
    · exact ⟨v, hv, .inr hbound⟩

theorem variables_after_substitution (s : Substitution) (x : Expression) :
    (x.apply s).vars =
        distinct (x.vars.flatMap fun name => (s.get? name).elim [name] Term.vars) ∧
      (∀ name, name ∈ (x.apply s).vars ↔
        name ∈ x.vars ∧ s.get? name = none ∨
          ∃ v ∈ x.vars, ∃ t, s.get? v = some t ∧ t.contains (.var name) = true) ∧
      ∀ name, s.contains name = true →
        (∀ v ∈ x.vars, ∀ t, s.get? v = some t → t.contains (.var name) = false) →
          (x.apply s).contains (.var name) = false := by
  refine ⟨x.vars_apply s, x.mem_vars_apply_iff s, ?_⟩
  intro name hbound hfree
  rw [Bool.eq_false_iff, Ne, contains_var_iff, mem_vars_apply_iff]
  rintro (⟨-, hnone⟩ | ⟨v, hv, t, ht, hname⟩)
  · rw [OrderedMap.contains_eq_isSome, hnone] at hbound
    cases hbound
  · cases (hfree v hv t ht).symm.trans hname

theorem variables_after_substitution_self :
    let s : Substitution :=
      .ofList [("?y", .minus (.var "?z")), ("?x", .binary .add (.var "?z") (.var "?x"))]
    let x : Expression := .comparison
      ⟨.less, .binary .add (.var "?y") (.var "?x"), .binary .multiply (.var "?x") (.var "?z")⟩
    x.vars = ["?y", "?x", "?z"] ∧ (x.apply s).vars = ["?z", "?x"] ∧ "?x" ∈ (x.apply s).vars ∧
      s.contains "?y" = true ∧
      (∀ v ∈ x.vars, ∀ t, s.get? v = some t → t.contains (.var "?y") = false) ∧
      (x.apply s).contains (.var "?y") = false := by
  intro s x
  obtain ⟨hvars, hmem, hfree⟩ := variables_after_substitution s x
  have hx : x.vars = ["?y", "?x", "?z"] := by decide +kernel
  have hresult : distinct (x.vars.flatMap fun name => (s.get? name).elim [name] Term.vars) =
      ["?z", "?x"] := by decide +kernel
  have hself : "?x" ∈ (x.apply s).vars :=
    (hmem "?x").mpr (.inr ⟨"?x", by decide +kernel, _, rfl, rfl⟩)
  have hbound : s.contains "?y" = true := by decide +kernel
  have hterms : ∀ v ∈ x.vars, (s.get? v).all (fun t => !t.contains (.var "?y")) = true := by
    decide +kernel
  have hterm : ∀ v ∈ x.vars, ∀ t, s.get? v = some t → t.contains (.var "?y") = false := by
    intro v hv t ht
    have h := hterms v hv
    rw [ht] at h
    simpa using h
  exact ⟨hx, hvars.trans hresult, hself, hbound, hterm, hfree "?y" hbound hterm⟩

end Expression

end PlanComparison
