import PlanComparison.Proofs.Composition
import PlanComparison.Proofs.Outcome
import PlanComparison.Proofs.Variables

namespace PlanComparison

namespace Substitution

variable (s : Substitution)

def Binds (p : Term → Bool) (names : List String) : Prop :=
  ∀ name ∈ names, ∃ t, s.get? name = some t ∧ p t = true

theorem binds_nil (p : Term → Bool) : s.Binds p [] :=
  List.forall_mem_nil _

theorem binds_append_iff (p : Term → Bool) (xs ys : List String) :
    s.Binds p (xs ++ ys) ↔ s.Binds p xs ∧ s.Binds p ys :=
  List.forall_mem_append

theorem binds_distinct_iff (p : Term → Bool) (names : List String) :
    s.Binds p (distinct names) ↔ s.Binds p names :=
  forall_congr' fun name => imp_congr_left (mem_distinct name names)

theorem binds_singleton_iff {p : Term → Bool} {name : String} (hp : p (.var name) = false) :
    s.Binds p [name] ↔ p ((Term.var name).apply s) = true := by
  rw [Binds, List.forall_mem_singleton, Term.apply_var]
  cases s.get? name with
  | none => simp [hp]
  | some t => simp

inductive GivesConstant : Term → Prop
  | const (name : String) : GivesConstant (.const name)
  | var {name other : String} (h : s.get? name = some (.const other)) : GivesConstant (.var name)

theorem givesConstant_iff (t : Term) :
    s.GivesConstant t ↔ ∃ name, t.apply s = .const name := by
  constructor
  · intro h
    cases h with
    | const name => exact ⟨name, rfl⟩
    | @var name other h => exact ⟨other, by rw [Term.apply_var, h, Option.getD_some]⟩
  · rintro ⟨name, h⟩
    cases t with
    | var x =>
      rw [Term.apply_var] at h
      cases hx : s.get? x with
      | none =>
        rw [hx] at h
        cases h
      | some u =>
        rw [hx] at h
        cases h
        exact .var hx
    | const x => exact .const x
    | num x => cases h
    | minus a => cases h
    | binary op a b => cases h

end Substitution

namespace Term

def NoConstant (t : Term) : Prop := ∀ name, t.contains (const name) = false

theorem noConstant_minus_iff (a : Term) : a.minus.NoConstant ↔ a.NoConstant :=
  Iff.rfl

theorem noConstant_binary_iff (op : BinaryOp) (a b : Term) :
    (binary op a b).NoConstant ↔ a.NoConstant ∧ b.NoConstant := by
  have hparts (name : String) : (binary op a b).contains (const name) =
      (a.contains (const name) || b.contains (const name)) := rfl
  simp only [NoConstant, hparts, Bool.or_eq_false_iff, forall_and]

theorem not_noConstant_const (name : String) : ¬(const name).NoConstant := by
  intro h
  have hself : (const name).contains (const name) = true := beq_self_eq_true name
  rw [h name] at hself
  cases hself

variable (s : Substitution) (t : Term)

theorem isGround_apply_iff :
    (t.apply s).isGround = true ↔ s.Binds isGround t.occurrences := by
  induction t with
  | var name => exact (s.binds_singleton_iff rfl).symm
  | const name => exact iff_of_true rfl (s.binds_nil _)
  | num x => exact iff_of_true rfl (s.binds_nil _)
  | minus a ih => exact ih
  | binary op a b iha ihb =>
    rw [apply, isGround, Bool.and_eq_true_iff, iha, ihb, occurrences, s.binds_append_iff]

theorem isNumeric_apply_iff :
    (t.apply s).isNumeric = true ↔ t.NoConstant ∧ s.Binds isNumeric t.occurrences := by
  induction t with
  | var name =>
    have hvar : (var name).NoConstant := fun _ => rfl
    rw [occurrences, s.binds_singleton_iff rfl]
    exact (and_iff_right hvar).symm
  | const name => exact iff_of_false Bool.false_ne_true fun h => not_noConstant_const name h.1
  | num x => exact iff_of_true rfl ⟨fun _ => rfl, s.binds_nil _⟩
  | minus a ih => rwa [noConstant_minus_iff]
  | binary op a b iha ihb =>
    rw [apply, isNumeric, Bool.and_eq_true_iff, iha, ihb, noConstant_binary_iff, occurrences,
      s.binds_append_iff, and_and_and_comm]

end Term

namespace Comparison

variable (s : Substitution) (c : Comparison)

theorem binds_vars_iff (p : Term → Bool) : s.Binds p c.vars ↔
    s.Binds p c.left.occurrences ∧ s.Binds p c.right.occurrences := by
  rw [vars, s.binds_distinct_iff, s.binds_append_iff]

theorem noConstant_iff : (∀ name, c.contains (.const name) = false) ↔
    c.left.NoConstant ∧ c.right.NoConstant := by
  simp only [contains, Bool.or_eq_false_iff, forall_and, Term.NoConstant]

theorem isGround_apply_iff : (c.apply s).isGround = true ↔ s.Binds Term.isGround c.vars := by
  rw [apply, isGround, Bool.and_eq_true_iff, Term.isGround_apply_iff, Term.isGround_apply_iff,
    binds_vars_iff]

theorem isNumeric_apply_iff : (c.apply s).isNumeric = true ↔
    (∀ name, c.contains (.const name) = false) ∧ s.Binds Term.isNumeric c.vars := by
  rw [apply, isNumeric, Bool.and_eq_true_iff, Term.isNumeric_apply_iff, Term.isNumeric_apply_iff,
    noConstant_iff, binds_vars_iff, and_and_and_comm]

theorem isSome_nameVerdict_iff : c.nameVerdict.isSome = true ↔
    (c.op = .equal ∨ c.op = .notEqual) ∧ (∃ a, c.left = .const a) ∧ ∃ b, c.right = .const b := by
  have hop (names : String × String) :
      (c.op.holdsForNames names.1 names.2).isSome = true ↔ c.op = .equal ∨ c.op = .notEqual := by
    cases c.op <;> simp [Comparator.holdsForNames]
  constructor
  · intro h
    obtain ⟨v, hv⟩ := Option.isSome_iff_exists.mp h
    obtain ⟨names, hnames, hv⟩ := Option.bind_eq_some_iff.mp hv
    obtain ⟨ha, hb⟩ := constants?_eq_some_iff.mp hnames
    exact ⟨(hop names).mp (Option.isSome_of_eq_some hv), ⟨_, ha⟩, _, hb⟩
  · rintro ⟨h, ⟨a, ha⟩, b, hb⟩
    rw [nameVerdict, constants?_eq_some_iff.mpr ⟨ha, hb⟩]
    exact (hop (a, b)).mpr h

theorem isEvaluable_apply_iff : (c.apply s).isEvaluable = true ↔
    (∀ name, c.contains (.const name) = false) ∧ s.Binds Term.isNumeric c.vars ∨
      (c.op = .equal ∨ c.op = .notEqual) ∧ s.GivesConstant c.left ∧ s.GivesConstant c.right := by
  rw [isEvaluable_eq_or, Bool.or_eq_true_iff, isNumeric_apply_iff, isSome_nameVerdict_iff,
    s.givesConstant_iff, s.givesConstant_iff]
  rfl

theorem evaluability_after_substitution (s : Substitution) :
    (∀ c : Comparison,
      ((c.apply s).isGround = true ↔ s.Binds Term.isGround c.vars) ∧
        ((c.apply s).isEvaluable = true ↔
          (∀ name, c.contains (.const name) = false) ∧ s.Binds Term.isNumeric c.vars ∨
            (c.op = .equal ∨ c.op = .notEqual) ∧
              s.GivesConstant c.left ∧ s.GivesConstant c.right)) ∧
      ∀ e : Equality,
        ((e.apply s).isGround = true ↔ s.Binds Term.isGround e.vars) ∧
          ((e.apply s).isEvaluable = true ↔
            (∀ name, e.contains (.const name) = false) ∧ s.Binds Term.isNumeric e.vars ∨
              s.GivesConstant e.left ∧ s.GivesConstant e.right) := by
  refine ⟨?_, ?_⟩
  · intro c
    exact ⟨c.isGround_apply_iff s, c.isEvaluable_apply_iff s⟩
  · intro e
    have hequal : e.toComparison.op = .equal ∨ e.toComparison.op = .notEqual := .inl rfl
    have hevaluable := e.toComparison.isEvaluable_apply_iff s
    rw [and_iff_right hequal] at hevaluable
    exact ⟨e.toComparison.isGround_apply_iff s, hevaluable⟩

end Comparison

end PlanComparison
