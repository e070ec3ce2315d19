import Mathlib.Data.List.Perm.Subperm
import PlanComparison.Proofs.Canonical

namespace PlanComparison

namespace OrderedMap

variable {α : Type} {m n : OrderedMap α}

theorem mem_keys_iff (m : OrderedMap α) (x : String) : x ∈ m.keys ↔ (m.get? x).isSome = true := by
  rw [← contains_eq_isSome, contains, List.contains_iff_mem]

theorem get?_eq_of_perm (h : m.entries.Perm n.entries) (x : String) : m.get? x = n.get? x := by
  apply Option.ext
  intro v
  rw [get?_eq_some_iff, get?_eq_some_iff, h.mem_iff]

variable {r : α → α → Bool} (h : m.same r n = true)

include h

theorem exists_of_same {x : String} {v : α} (hx : m.get? x = some v) :
    ∃ w, n.get? x = some w ∧ r v w = true := by
  rw [same, Bool.and_eq_true_iff, List.all_eq_true] at h
  exact (Option.any_eq_true _ _).mp (h.2 (x, v) ((m.get?_eq_some_iff x v).mp hx))

theorem keys_perm_of_same : m.keys.Perm n.keys := by
  have hsubset : m.keys ⊆ n.keys := by
    intro x hx
    obtain ⟨v, hv⟩ := Option.isSome_iff_exists.mp ((m.mem_keys_iff x).mp hx)
    obtain ⟨w, hw, -⟩ := exists_of_same h hv
    exact (n.mem_keys_iff x).mpr (Option.isSome_of_eq_some hw)
  have hlength : n.keys.length = m.keys.length := by
    rw [same, Bool.and_eq_true_iff, beq_iff_eq] at h
    rw [keys, keys, List.length_map, List.length_map]
    exact h.1.symm
  exact (List.subperm_of_subset m.nodup hsubset).perm_of_length_le (Nat.le_of_eq hlength)

theorem rel_get?_of_same (x : String) : Option.Rel (r · · = true) (m.get? x) (n.get? x) := by
  cases hm : m.get? x with
  | some v =>
    obtain ⟨w, hw, hvw⟩ := exists_of_same h hm
    rw [hw]
    exact .some hvw
  | none =>
    -- The maps bind the same names, since they bind equally many.
    have hx : x ∉ n.keys := by
      rw [← (keys_perm_of_same h).mem_iff, mem_keys_iff, hm]
      exact Bool.false_ne_true
    rw [mem_keys_iff, Bool.not_eq_true, Option.isSome_eq_false_iff, Option.isNone_iff_eq_none] at hx
    rw [hx]
    exact .none

end OrderedMap

section Agreement

variable {s r : Substitution}

theorem Substitution.get?_canonical_of_same (h : OrderedMap.same Term.same s r = true)
    (name : String) : s.canonical.get? name = r.canonical.get? name := by
  have hname := OrderedMap.rel_get?_of_same h name
  rw [s.get?_canonical, r.get?_canonical]
  generalize s.get? name = x, r.get? name = y at hname
  cases hname with
  | none => rfl
  | some htu => exact congrArg some ((Term.same_iff_canonical _ _).mp htu)

theorem Term.apply_eq_iff (t : Term) : t.apply s = t.apply r ↔
    ∀ name ∈ t.occurrences, (var name).apply s = (var name).apply r := by
  induction t with
  | var name => rw [occurrences, List.forall_mem_singleton]
  | const name => exact iff_of_true rfl (List.forall_mem_nil _)
  | num x => exact iff_of_true rfl (List.forall_mem_nil _)
  | minus a ih => rw [apply, apply, minus.injEq, ih, occurrences]
  | binary op a b iha ihb =>
    rw [apply, apply, binary.injEq, iha, ihb, occurrences, List.forall_mem_append,
      and_iff_right rfl]

namespace Expression

variable (x : Expression)

theorem apply_eq_iff : x.apply s = x.apply r ↔
    ∀ name ∈ x.vars, (Term.var name).apply s = (Term.var name).apply r := by
  simp only [vars_eq_distinct, mem_distinct]
  cases x with
  | term t => rw [apply, apply, term.injEq, t.apply_eq_iff, occurrences]
  | comparison c =>
    rw [apply, apply, comparison.injEq, Comparison.apply, Comparison.apply, Comparison.mk.injEq,
      and_iff_right rfl, Term.apply_eq_iff, Term.apply_eq_iff, occurrences, List.forall_mem_append]
  | equality e =>
    rw [apply, apply, equality.injEq, Equality.apply, Equality.apply, Equality.mk.injEq,
      Term.apply_eq_iff, Term.apply_eq_iff, occurrences, List.forall_mem_append]

theorem apply_eq_of_get?_eq (h : ∀ name ∈ x.vars, s.get? name = r.get? name) :
    x.apply s = x.apply r := by
  rw [apply_eq_iff]
  intro name hname
  rw [Term.apply_var, Term.apply_var, h name hname]

theorem same_apply_iff : (x.apply s).same (x.apply r) = true ↔
    ∀ name ∈ x.vars, ((Term.var name).apply s).same ((Term.var name).apply r) = true := by
  simp only [same_iff_canonical, canonical_apply, apply_eq_iff, vars_canonical,
    Term.same_iff_canonical, Term.canonical_apply, Term.canonical]

theorem same_apply_of_same (h : OrderedMap.same Term.same s r = true) :
    (x.apply s).same (x.apply r) = true := by
  rw [same_iff_canonical, canonical_apply, canonical_apply]
  exact apply_eq_of_get?_eq _ fun name _ => Substitution.get?_canonical_of_same h name

theorem substitutions_agree_at_variables (s r : Substitution) (x : Expression) :
    ((x.apply s).same (x.apply r) = true ↔
        ∀ name ∈ x.vars, ((Term.var name).apply s).same ((Term.var name).apply r) = true) ∧
      (∀ name ∉ x.vars, ∀ t, x.apply (OrderedMap.insert s name t) = x.apply s) ∧
      (s.entries.Perm r.entries → x.apply s = x.apply r) ∧
      (OrderedMap.same Term.same s r = true → (x.apply s).same (x.apply r) = true) := by
  refine ⟨x.same_apply_iff, ?_, ?_, x.same_apply_of_same⟩
  · intro name hname t
    apply x.apply_eq_of_get?_eq
    intro v hv
    have hne : v ≠ name := fun h => hname (h ▸ hv)
    rw [OrderedMap.get?_insert, if_neg hne]
  · intro h
    exact x.apply_eq_of_get?_eq fun name _ => OrderedMap.get?_eq_of_perm h name

theorem substitutions_agree_at_variables_zeros :
    let zero : Term := .num ⟨false, 0, by decide⟩
    let negated : Term := .num ⟨true, 0, by decide⟩
    let x : Expression := .comparison ⟨.less, .var "?x", .minus (.var "?x")⟩
    let s : Substitution := .ofList [("?x", zero), ("?y", .const "a")]
    let turned : Substitution := .ofList [("?y", .const "a"), ("?x", zero)]
    let r : Substitution := .ofList [("?y", .const "a"), ("?x", negated)]
    let q : Substitution := .ofList [("?y", .const "a"), ("?x", .const "a")]
    "?y" ∉ x.vars ∧ x.apply (OrderedMap.insert s "?y" zero) = x.apply s ∧
      s.entries.Perm turned.entries ∧ x.apply s = x.apply turned ∧
      OrderedMap.same Term.same s r = true ∧ (x.apply s).same (x.apply r) = true ∧
      ((Term.var "?x").apply s).same ((Term.var "?x").apply q) = false ∧
      (x.apply s).same (x.apply q) = false := by
  intro zero negated x s turned r q
  have hy : "?y" ∉ x.vars := by decide +kernel
  have hx : "?x" ∈ x.vars := by decide +kernel
  have hperm : s.entries.Perm turned.entries := by decide +kernel
  have hsame : OrderedMap.same Term.same s r = true := by decide +kernel
  have hdifferent : ((Term.var "?x").apply s).same ((Term.var "?x").apply q) = false := by
    decide +kernel
  obtain ⟨-, hinsert, horder, -⟩ := substitutions_agree_at_variables s turned x
  obtain ⟨-, -, -, hequal⟩ := substitutions_agree_at_variables s r x
  obtain ⟨hiff, -⟩ := substitutions_agree_at_variables s q x
  refine ⟨hy, hinsert "?y" hy zero, hperm, horder hperm, hsame, hequal hsame, hdifferent, ?_⟩
  rw [Bool.eq_false_iff, Ne, hiff]
  intro h
  cases (h "?x" hx).symm.trans hdifferent

end Expression

end Agreement

end PlanComparison
