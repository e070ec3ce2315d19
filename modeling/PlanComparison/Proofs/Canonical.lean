import PlanComparison.Proofs.Composition
import PlanComparison.Proofs.Congruence
import PlanComparison.Proofs.Variables

namespace PlanComparison

namespace Number

def canonical (x : Number) : Number := if x.isZero then { x with negative := false } else x

theorem units_canonical (x : Number) : x.canonical.units = x.units := by
  rw [canonical]
  split
  · rename_i h
    have hrank : x.rank = 0 := eq_of_beq h
    have hmagnitude : x.magnitude = 0 := by
      rw [magnitude, hrank, Nat.zero_sub, Nat.zero_mul]
    have hpositive : ({ x with negative := false } : Number).magnitude = 0 := hmagnitude
    rw [units, units, hpositive, hmagnitude]
    split <;> split <;> rfl
  · rfl

theorem same_iff_canonical (x y : Number) : x.same y = true ↔ x.canonical = y.canonical := by
  constructor
  · intro h
    rcases eq_or_isZero_of_same h with rfl | ⟨hx, hy⟩
    · rfl
    · have hrank := rank_eq_of_same h
      rw [canonical, if_pos hx, canonical, if_pos hy]
      simp only [hrank]
  · intro h
    rw [same_iff, ← units_canonical x, h, units_canonical]

end Number

namespace Term

def canonical : Term → Term
  | var name => var name
  | const name => const name
  | num x => num x.canonical
  | minus a => minus a.canonical
  | binary op a b => binary op a.canonical b.canonical

theorem same_iff_canonical (t u : Term) : t.same u = true ↔ t.canonical = u.canonical := by
  induction t generalizing u with
  | var x => cases u <;> simp [same, canonical]
  | const x => cases u <;> simp [same, canonical]
  | num x => cases u <;> simp [same, canonical, Number.same_iff_canonical]
  | minus a ih => cases u <;> simp [same, canonical, ih]
  | binary op a b iha ihb => cases u <;> simp [same, canonical, iha, ihb, and_assoc]

theorem occurrences_canonical (t : Term) : t.canonical.occurrences = t.occurrences := by
  induction t with
  | var name => rfl
  | const name => rfl
  | num x => rfl
  | minus a ih => exact ih
  | binary op a b iha ihb => rw [canonical, occurrences, iha, ihb, occurrences]

end Term

namespace Substitution

def canonical (s : Substitution) : Substitution := s.map Term.canonical

theorem get?_canonical (s : Substitution) (name : String) :
    s.canonical.get? name = (s.get? name).map Term.canonical :=
  OrderedMap.get?_map Term.canonical s name

end Substitution

theorem Term.canonical_apply (s : Substitution) (t : Term) :
    (t.apply s).canonical = t.canonical.apply s.canonical := by
  induction t with
  | var name =>
    rw [canonical, apply_var, apply_var, s.get?_canonical]
    cases s.get? name <;> rfl
  | const name => rfl
  | num x => rfl
  | minus a ih => rw [apply, canonical, canonical, apply, ih]
  | binary op a b iha ihb => rw [apply, canonical, canonical, apply, iha, ihb]

namespace Expression

def canonical : Expression → Expression
  | term t => term t.canonical
  | comparison c => comparison ⟨c.op, c.left.canonical, c.right.canonical⟩
  | equality e => equality ⟨e.left.canonical, e.right.canonical⟩

def same : Expression → Expression → Bool
  | term t, term u => t.same u
  | comparison c, comparison d => c.same d
  | equality e, equality f => e.same f
  | _, _ => false

variable (x y : Expression)

theorem same_iff_canonical : x.same y = true ↔ x.canonical = y.canonical := by
  cases x with
  | term t => cases y <;> simp [same, canonical, Term.same_iff_canonical]
  | comparison c =>
    cases y <;> simp [same, canonical, Comparison.same_iff, Term.same_iff_canonical]
  | equality e =>
    cases y <;> simp [same, canonical, Equality.same, Equality.toComparison, Comparison.same_iff,
      Term.same_iff_canonical]

theorem terms_canonical : x.canonical.terms = x.terms.map Term.canonical := by
  cases x <;> rfl

theorem vars_canonical : x.canonical.vars = x.vars := by
  simp only [vars_eq_distinct, occurrences_eq_flatMap, terms_canonical, List.flatMap_map,
    Term.occurrences_canonical]

theorem canonical_apply (s : Substitution) :
    (x.apply s).canonical = x.canonical.apply s.canonical := by
  cases x with
  | term t => exact congrArg term (t.canonical_apply s)
  | comparison c =>
    simp only [apply, Comparison.apply, canonical, Term.canonical_apply]
  | equality e => simp only [apply, Equality.apply, canonical, Term.canonical_apply]

end Expression

end PlanComparison
