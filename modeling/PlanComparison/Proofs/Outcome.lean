import PlanComparison.Comparison.Equality
import PlanComparison.Proofs.Reduction

namespace PlanComparison

section Outcomes

variable {α β : Type}

theorem bind_eq_ok_iff {r : Except Error α} {f : α → Except Error β} {b : β} :
    r >>= f = .ok b ↔ ∃ a, r = .ok a ∧ f a = .ok b := by
  cases r with
  | ok a =>
    constructor
    · intro h
      exact ⟨a, rfl, h⟩
    · rintro ⟨a', ha, h⟩
      cases ha
      exact h
  | error e =>
    constructor
    · intro h
      cases h
    · rintro ⟨a, ha, -⟩
      cases ha

theorem bind_eq_error_iff {r : Except Error α} {f : α → Except Error β} {e : Error} :
    r >>= f = .error e ↔ r = .error e ∨ ∃ a, r = .ok a ∧ f a = .error e := by
  cases r with
  | ok a =>
    constructor
    · intro h
      exact .inr ⟨a, rfl, h⟩
    · rintro (h | ⟨a', ha, h⟩)
      · cases h
      · cases ha
        exact h
  | error e' =>
    constructor
    · intro h
      cases h
      exact .inl rfl
    · rintro (h | ⟨a, ha, -⟩)
      · cases h
        rfl
      · cases ha

theorem map_eq_ok_iff {r : Except Error α} {f : α → β} {b : β} :
    r.map f = .ok b ↔ ∃ a, r = .ok a ∧ f a = b := by
  have hbind : r.map f = r >>= fun a => .ok (f a) := rfl
  rw [hbind, bind_eq_ok_iff]
  simp only [Except.ok.injEq]

theorem map_eq_error_iff {r : Except Error α} {f : α → β} {e : Error} :
    r.map f = .error e ↔ r = .error e := by
  cases r with
  | ok a =>
    constructor
    · intro h
      cases h
    · intro h
      cases h
  | error e' =>
    constructor
    · intro h
      cases h
      rfl
    · intro h
      cases h
      rfl

def outcome (r : Except Error α) : Except Error.Kind α := r.mapError Error.kind

theorem outcome_eq_ok_iff {r : Except Error α} {a : α} : outcome r = .ok a ↔ r = .ok a := by
  cases r with
  | ok b =>
    constructor
    · intro h
      cases h
      rfl
    · intro h
      cases h
      rfl
  | error e =>
    constructor
    · intro h
      cases h
    · intro h
      cases h

theorem outcome_bind (r : Except Error α) (f : α → Except Error β) :
    outcome (r >>= f) = outcome r >>= fun a => outcome (f a) := by
  cases r with
  | ok a => rfl
  | error e => rfl

theorem outcome_map (f : α → β) (r : Except Error α) :
    outcome (r.map f) = (outcome r).map f := by
  cases r with
  | ok a => rfl
  | error e => rfl

end Outcomes

theorem Term.isNumeric_of_evaluate {t : Term} {x : Number} (h : t.evaluate = .ok x) :
    t.isNumeric = true := by
  induction t generalizing x with
  | var name => cases h
  | const name => cases h
  | num y => rfl
  | minus a ih =>
    rw [evaluate, bind_eq_ok_iff] at h
    obtain ⟨y, hy, -⟩ := h
    exact ih hy
  | binary op a b iha ihb =>
    rw [evaluate, bind_eq_ok_iff] at h
    obtain ⟨y, hy, h⟩ := h
    obtain ⟨z, hz, -⟩ := bind_eq_ok_iff.mp h
    exact Bool.and_eq_true_iff.mpr ⟨iha hy, ihb hz⟩

theorem Term.outcome_combine (t u : Term) (op : BinaryOp) (x y : Number) :
    outcome (t.combine op x y) = outcome (u.combine op x y) := by
  unfold combine
  split
  · rfl
  · split <;> rfl

def Comparator.holdsForNames : Comparator → String → String → Option Bool
  | equal, m, n => some (m == n)
  | notEqual, m, n => some (!(m == n))
  | _, _, _ => none

namespace Comparison

theorem constants?_eq_some_iff {c : Comparison} {a b : String} :
    c.constants? = some (a, b) ↔ c.left = .const a ∧ c.right = .const b := by
  unfold constants?
  split
  · rename_i hleft hright
    rw [hleft, hright, Option.some.injEq, Prod.mk.injEq, Term.const.injEq, Term.const.injEq]
  · rename_i hnone
    constructor
    · intro h
      cases h
    · rintro ⟨hleft, hright⟩
      exact absurd hright (hnone a b hleft)

theorem constants?_congr {c d : Comparison}
    (hleft : ∀ name, c.left = .const name ↔ d.left = .const name)
    (hright : ∀ name, c.right = .const name ↔ d.right = .const name) :
    c.constants? = d.constants? := by
  apply Option.ext
  rintro ⟨a, b⟩
  rw [constants?_eq_some_iff, constants?_eq_some_iff, hleft, hright]

theorem reduce_eq_ok_iff {c : Comparison} {x y : Number} :
    c.reduce = .ok (x, y) ↔ c.left.evaluate = .ok x ∧ c.right.evaluate = .ok y := by
  rw [reduce, bind_eq_ok_iff]
  constructor
  · rintro ⟨x', hx, h⟩
    obtain ⟨y', hy, h⟩ := bind_eq_ok_iff.mp h
    cases h
    exact ⟨hx, hy⟩
  · rintro ⟨hx, hy⟩
    exact ⟨x, hx, bind_eq_ok_iff.mpr ⟨y, hy, rfl⟩⟩

theorem calculated_reduce {c : Comparison} (h : c.isNumeric = true) : Calculated c.reduce := by
  have hab := Bool.and_eq_true_iff.mp h
  apply (Term.calculated_evaluate hab.1).bind
  intro x
  apply (Term.calculated_evaluate hab.2).bind
  intro y
  exact .inl ⟨(x, y), rfl⟩

theorem outcome_reduce_congr {c d : Comparison}
    (hleft : outcome c.left.evaluate = outcome d.left.evaluate)
    (hright : outcome c.right.evaluate = outcome d.right.evaluate) :
    outcome c.reduce = outcome d.reduce := by
  simp only [reduce, outcome_bind, hleft, hright]

theorem value_evaluate (c : Comparison) : c.evaluate.value = c.verdict.value := by
  rw [evaluate, Logged.value_bind]
  cases c.verdict.value with
  | ok result => rfl
  | error e => rfl

theorem evaluate_of_isNumeric {c : Comparison} (h : c.isNumeric = true) :
    c.evaluate.value = c.reduce.map fun p => c.op.holds p.1 p.2 := by
  obtain ⟨op, a, b⟩ := c
  rw [value_evaluate]
  cases op with
  | equal => rw [verdict, equalityVerdict, if_pos h, Logged.value_pure]
  | notEqual =>
    rw [verdict, Logged.value_bind, Logged.value_pure, equalityVerdict, if_pos h,
      Logged.value_pure]
    cases (Comparison.mk .notEqual a b).reduce <;> rfl
  | _ => rw [verdict, orderVerdict, if_pos h, Logged.value_pure]

def nameVerdict (c : Comparison) : Option Bool :=
  c.constants?.bind fun names => c.op.holdsForNames names.1 names.2

theorem isEvaluable_eq_or (c : Comparison) :
    c.isEvaluable = (c.isNumeric || c.nameVerdict.isSome) := by
  obtain ⟨op, a, b⟩ := c
  rw [nameVerdict]
  cases op with
  | equal =>
    rw [isEvaluable, isEqualityEvaluable]
    cases (Comparison.mk .equal a b).constants? <;> rfl
  | notEqual =>
    rw [isEvaluable, isEqualityEvaluable]
    cases (Comparison.mk .notEqual a b).constants? <;> rfl
  | _ =>
    rw [isEvaluable]
    generalize constants? _ = names
    cases names <;> exact (Bool.or_false _).symm

theorem isEvaluable_congr {c d : Comparison} (hop : c.op = d.op)
    (hnum : c.isNumeric = d.isNumeric) (hconst : c.constants? = d.constants?) :
    c.isEvaluable = d.isEvaluable := by
  rw [isEvaluable_eq_or, isEvaluable_eq_or, nameVerdict, nameVerdict, hnum, hconst, hop]

theorem evaluate_of_not_isNumeric {c : Comparison} (h : c.isNumeric = false) :
    c.evaluate.value = c.nameVerdict.elim (.error (.comparisonNotEvaluable c)) .ok := by
  have hnum : ¬c.isNumeric = true := Bool.eq_false_iff.mp h
  obtain ⟨op, a, b⟩ := c
  rw [value_evaluate, nameVerdict]
  cases op with
  | equal =>
    rw [verdict, equalityVerdict, if_neg hnum]
    cases (Comparison.mk .equal a b).constants? <;> rfl
  | notEqual =>
    rw [verdict, equalityVerdict, if_neg hnum]
    cases (Comparison.mk .notEqual a b).constants? <;> rfl
  | _ =>
    rw [verdict, orderVerdict, if_neg hnum]
    generalize constants? _ = names
    cases names <;> rfl

theorem outcome_evaluate (c : Comparison) :
    outcome c.evaluate.value =
      if c.isNumeric then (outcome c.reduce).map fun p => c.op.holds p.1 p.2
      else c.nameVerdict.elim (.error .notEvaluable) .ok := by
  cases hnum : c.isNumeric with
  | true =>
    rw [evaluate_of_isNumeric hnum, outcome_map]
    rfl
  | false =>
    rw [evaluate_of_not_isNumeric hnum]
    cases c.nameVerdict <;> rfl

theorem outcome_evaluate_congr {c d : Comparison} (hop : c.op = d.op)
    (hnum : c.isNumeric = d.isNumeric) (hconst : c.constants? = d.constants?)
    (hreduce : (outcome c.reduce).map (fun p => c.op.holds p.1 p.2) =
      (outcome d.reduce).map fun p => c.op.holds p.1 p.2) :
    outcome c.evaluate.value = outcome d.evaluate.value := by
  rw [outcome_evaluate, outcome_evaluate, nameVerdict, nameVerdict, hnum, hconst, hreduce, hop]

theorem outcome_evaluate_notEqual (a b : Term) :
    outcome (evaluate ⟨.notEqual, a, b⟩).value =
      (outcome (evaluate ⟨.equal, a, b⟩).value).map not := by
  have hnum : (mk .notEqual a b).isNumeric = (mk .equal a b).isNumeric := rfl
  have hreduce : (mk .notEqual a b).reduce = (mk .equal a b).reduce := rfl
  have hconst : (mk .notEqual a b).constants? = (mk .equal a b).constants? := rfl
  rw [outcome_evaluate, outcome_evaluate, nameVerdict, nameVerdict, hnum, hreduce, hconst]
  split
  · cases outcome (mk .equal a b).reduce <;> rfl
  · cases (mk .equal a b).constants? <;> rfl

end Comparison

end PlanComparison
