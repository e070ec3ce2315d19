import Mathlib.Tactic.Common
import PlanComparison.Term.Evaluation

namespace PlanComparison

def Error.IsArithmetic (e : Error) : Prop := e.kind = .divisionByZero ∨ e.kind = .nonFinite

def Calculated {α : Type} (r : Except Error α) : Prop :=
  (∃ a, r = .ok a) ∨ ∃ e, r = .error e ∧ e.IsArithmetic

namespace Calculated

variable {α β : Type}

theorem map {r : Except Error α} (h : Calculated r) (f : α → β) : Calculated (r.map f) := by
  rcases h with ⟨a, rfl⟩ | ⟨e, rfl, he⟩
  · exact .inl ⟨f a, rfl⟩
  · exact .inr ⟨e, rfl, he⟩

theorem bind {r : Except Error α} (h : Calculated r) {f : α → Except Error β}
    (hf : ∀ a, Calculated (f a)) : Calculated (r >>= f) := by
  rcases h with ⟨a, rfl⟩ | ⟨e, rfl, he⟩
  · exact hf a
  · exact .inr ⟨e, rfl, he⟩

theorem kind_ne {r : Except Error α} (h : Calculated r) {e : Error} (he : r = .error e) :
    e.kind ≠ .notEvaluable := by
  rcases h with ⟨a, rfl⟩ | ⟨e', rfl, hdiv | hfin⟩
  · cases he
  · cases he
    simp [hdiv]
  · cases he
    simp [hfin]

end Calculated

namespace Term

/-- All parts of a term: those of its operands from left to right, then the term itself. -/
def parts : Term → List Term
  | t@(var _) => [t]
  | t@(const _) => [t]
  | t@(num _) => [t]
  | t@(minus a) => a.parts ++ [t]
  | t@(binary _ a b) => a.parts ++ b.parts ++ [t]

theorem mem_parts_self (t : Term) : t ∈ t.parts := by
  cases t <;> simp [parts]

theorem mem_parts_of_mem_operands {t u a : Term} (ha : a ∈ t.operands) (h : u ∈ a.parts) :
    u ∈ t.parts := by
  cases t with
  | var name => cases ha
  | const name => cases ha
  | num x => cases ha
  | minus b =>
    rw [List.mem_singleton.mp ha] at h
    exact List.mem_append_left _ h
  | binary op b c =>
    apply List.mem_append_left
    rcases List.mem_cons.mp ha with rfl | ha
    · exact List.mem_append_left _ h
    · rw [List.mem_singleton.mp ha] at h
      exact List.mem_append_right _ h

theorem parts_induction {u : Term} {motive : (t : Term) → u ∈ t.parts → Prop}
    (self : motive u u.mem_parts_self)
    (operand : ∀ {t a : Term} (ha : a ∈ t.operands) (h : u ∈ a.parts), motive a h →
      motive t (mem_parts_of_mem_operands ha h))
    {t : Term} (h : u ∈ t.parts) : motive t h := by
  induction t with
  | var name =>
    cases List.mem_singleton.mp h
    exact self
  | const name =>
    cases List.mem_singleton.mp h
    exact self
  | num x =>
    cases List.mem_singleton.mp h
    exact self
  | minus a ih =>
    rcases List.mem_append.mp h with ha | hself
    · exact operand List.mem_cons_self ha (ih ha)
    · cases List.mem_singleton.mp hself
      exact self
  | binary op a b iha ihb =>
    rcases List.mem_append.mp h with hab | hself
    · rcases List.mem_append.mp hab with ha | hb
      · exact operand List.mem_cons_self ha (iha ha)
      · exact operand (List.mem_cons_of_mem a List.mem_cons_self) hb (ihb hb)
    · cases List.mem_singleton.mp hself
      exact self

theorem isNumeric_of_mem_operands {t a : Term} (h : t.isNumeric = true) (ha : a ∈ t.operands) :
    a.isNumeric = true := by
  cases t with
  | var name => cases ha
  | const name => cases ha
  | num x => cases ha
  | minus b => rwa [List.mem_singleton.mp ha]
  | binary op b c =>
    have hbc := Bool.and_eq_true_iff.mp h
    rcases List.mem_cons.mp ha with rfl | ha
    · exact hbc.1
    · rw [List.mem_singleton.mp ha]
      exact hbc.2

theorem isNumeric_of_mem_parts {t u : Term} (h : t.isNumeric = true) (hu : u ∈ t.parts) :
    u.isNumeric = true := by
  induction hu using parts_induction with
  | self => exact h
  | operand ha _ ih => exact ih (isNumeric_of_mem_operands h ha)

theorem calculated_combine (t : Term) (op : BinaryOp) (x y : Number) :
    Calculated (t.combine op x y) := by
  unfold combine
  split
  · exact .inr ⟨_, rfl, .inl rfl⟩
  · split
    · exact .inl ⟨_, rfl⟩
    · exact .inr ⟨_, rfl, .inr rfl⟩

theorem calculated_evaluate {t : Term} (h : t.isNumeric = true) : Calculated t.evaluate := by
  induction t with
  | var name => cases h
  | const name => cases h
  | num x => exact .inl ⟨x, rfl⟩
  | minus a ih => exact (ih h).bind fun x => .inl ⟨x.neg, rfl⟩
  | binary op a b iha ihb =>
    have hab := Bool.and_eq_true_iff.mp h
    apply (iha hab.1).bind
    intro x
    apply (ihb hab.2).bind
    intro y
    exact calculated_combine _ op x y

theorem not_isArithmetic_of_const {name : String} {e : Error}
    (he : (const name).evaluate = .error e) : ¬e.IsArithmetic := by
  cases he
  rintro (h | h) <;> cases h

end Term

end PlanComparison
