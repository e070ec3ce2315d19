import PlanComparison.Proofs.Canonical
import PlanComparison.Proofs.Occurrence

/-!
Occurrence is an order of terms in which equal terms count as one. It does not look at the signs of
zeros, so a term occurs where its representative is a part of the other representative; the parts
of a term are ordered by how many parts they have themselves. A substitution keeps the order.
-/

namespace PlanComparison

namespace Term

theorem mem_parts_trans {t u v : Term} (hu : u ∈ t.parts) (hv : v ∈ u.parts) : v ∈ t.parts := by
  induction hu using parts_induction with
  | self => exact hv
  | operand ha _ ih => exact mem_parts_of_mem_operands ha ih

theorem length_parts_lt_of_mem_operands {t a : Term} (ha : a ∈ t.operands) :
    a.parts.length < t.parts.length := by
  cases t with
  | var name => cases ha
  | const name => cases ha
  | num x => cases ha
  | minus b =>
    rw [List.mem_singleton.mp ha, parts, List.length_append, List.length_singleton]
    exact Nat.lt_succ_self _
  | binary op b c =>
    rw [parts, List.length_append, List.length_append, List.length_singleton]
    rcases List.mem_cons.mp ha with rfl | ha
    · omega
    · rw [List.mem_singleton.mp ha]
      omega

theorem eq_or_length_parts_lt {t u : Term} (h : u ∈ t.parts) :
    u = t ∨ u.parts.length < t.parts.length := by
  induction h using parts_induction with
  | self => exact .inl rfl
  | operand ha _ ih =>
    right
    have hlt := length_parts_lt_of_mem_operands ha
    rcases ih with rfl | ih
    · exact hlt
    · exact Nat.lt_trans ih hlt

theorem eq_of_mem_parts {t u : Term} (hu : u ∈ t.parts) (ht : t ∈ u.parts) : t = u := by
  rcases eq_or_length_parts_lt hu with h | hlt
  · exact h.symm
  · rcases eq_or_length_parts_lt ht with h | hgt
    · exact h
    · omega

theorem mem_operands_apply (s : Substitution) {t a : Term} (ha : a ∈ t.operands) :
    a.apply s ∈ (t.apply s).operands := by
  cases t with
  | var name => cases ha
  | const name => cases ha
  | num x => cases ha
  | minus b => exact List.mem_map_of_mem (l := [b]) ha
  | binary op b c => exact List.mem_map_of_mem (l := [b, c]) ha

theorem mem_parts_apply (s : Substitution) {t u : Term} (h : u ∈ t.parts) :
    u.apply s ∈ (t.apply s).parts := by
  induction h using parts_induction with
  | self => exact mem_parts_self _
  | operand ha _ ih => exact mem_parts_of_mem_operands (mem_operands_apply s ha) ih

theorem contains_iff (t u : Term) : t.contains u = true ↔ u.canonical ∈ t.canonical.parts := by
  induction t with
  | var name =>
    rw [canonical, parts, List.mem_singleton]
    exact (same_iff_canonical (var name) u).trans eq_comm
  | const name =>
    rw [canonical, parts, List.mem_singleton]
    exact (same_iff_canonical (const name) u).trans eq_comm
  | num x =>
    rw [canonical, parts, List.mem_singleton]
    exact (same_iff_canonical (num x) u).trans eq_comm
  | minus a ih =>
    rw [contains, Bool.or_eq_true_iff, same_iff_canonical, ih, canonical, parts, List.mem_append,
      List.mem_singleton, or_comm, eq_comm]
  | binary op a b iha ihb =>
    rw [contains, Bool.or_eq_true_iff, Bool.or_eq_true_iff, same_iff_canonical, iha, ihb, canonical,
      parts, List.mem_append, List.mem_append, List.mem_singleton, or_assoc, or_comm, eq_comm]

theorem same_iff_contains (t u : Term) :
    t.same u = true ↔ t.contains u = true ∧ u.contains t = true := by
  rw [same_iff_canonical, contains_iff, contains_iff]
  constructor
  · intro h
    rw [h]
    exact ⟨mem_parts_self _, mem_parts_self _⟩
  · rintro ⟨hu, ht⟩
    exact eq_of_mem_parts hu ht

end Term

namespace Expression

variable {x : Expression} {u v : Term}

theorem mem_parts_trans (hu : u ∈ x.parts) (hv : v ∈ u.parts) : v ∈ x.parts := by
  obtain ⟨t, ht, hu⟩ := (x.mem_parts_iff u).mp hu
  exact (x.mem_parts_iff v).mpr ⟨t, ht, Term.mem_parts_trans hu hv⟩

theorem mem_parts_apply (s : Substitution) (h : u ∈ x.parts) : u.apply s ∈ (x.apply s).parts := by
  obtain ⟨t, ht, hu⟩ := (x.mem_parts_iff u).mp h
  rw [mem_parts_iff, terms_apply]
  exact ⟨t.apply s, List.mem_map_of_mem ht, Term.mem_parts_apply s hu⟩

theorem contains_iff : x.contains u = true ↔ u.canonical ∈ x.canonical.parts := by
  rw [contains_iff_exists, mem_parts_iff, terms_canonical]
  simp only [Term.contains_iff, List.mem_map, exists_exists_and_eq_and]

theorem occurrence_is_order :
    (∀ t : Term, t.contains t = true) ∧
      (∀ (x : Expression) (u v : Term),
        x.contains u = true → u.contains v = true → x.contains v = true) ∧
      (∀ t u : Term, t.same u = true ↔ t.contains u = true ∧ u.contains t = true) ∧
      ∀ (s : Substitution) (x : Expression) (u : Term),
        x.contains u = true → (x.apply s).contains (u.apply s) = true := by
  refine ⟨?_, ?_, Term.same_iff_contains, ?_⟩
  · intro t
    exact (t.contains_iff t).mpr (Term.mem_parts_self _)
  · intro x u v hu hv
    rw [contains_iff] at hu ⊢
    exact mem_parts_trans hu ((u.contains_iff v).mp hv)
  · intro s x u h
    rw [contains_iff] at h ⊢
    rw [canonical_apply, Term.canonical_apply]
    exact mem_parts_apply s.canonical h

theorem occurrence_is_order_zeros :
    let zero : Term := .num ⟨false, 0, by decide⟩
    let negated : Term := .num ⟨true, 0, by decide⟩
    let x : Expression := .comparison
      ⟨.less, .minus (.binary .add (.var "?x") zero), .var "?y"⟩
    let u : Term := .binary .add (.var "?x") negated
    let s : Substitution := .ofList [("?x", .minus (.var "?y"))]
    u.contains u = true ∧ x.contains u = true ∧ u.contains zero = true ∧ x.contains zero = true ∧
      zero.contains negated = true ∧ negated.contains zero = true ∧ zero.same negated = true ∧
      (x.apply s).contains (.binary .add (.minus (.var "?y")) negated) = true := by
  intro zero negated x u s
  obtain ⟨hrefl, htrans, hsame, happly⟩ := occurrence_is_order
  have hu : x.contains u = true := by decide +kernel
  have hzero : u.contains zero = true := by decide +kernel
  have hnegated : zero.contains negated = true := by decide +kernel
  have hback : negated.contains zero = true := by decide +kernel
  have hresult : u.apply s = .binary .add (.minus (.var "?y")) negated := by decide +kernel
  exact ⟨hrefl u, hu, hzero, htrans x u zero hu hzero, hnegated, hback,
    (hsame zero negated).mpr ⟨hnegated, hback⟩, hresult ▸ happly s x u hu⟩

end Expression

end PlanComparison
