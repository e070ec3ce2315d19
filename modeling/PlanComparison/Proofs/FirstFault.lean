import PlanComparison.Proofs.Outcome

namespace PlanComparison

namespace Term

def Succeeds (t : Term) : Prop := ∃ x, t.evaluate = .ok x

/-- `t` has no value for a reason of its own: its operands, if any, have values. -/
inductive Raises : Term → Error → Prop
  | var (name : String) : Raises (var name) (.termNotEvaluable (var name))
  | const (name : String) : Raises (const name) (.termNotEvaluable (const name))
  | divisionByZero {a b : Term} {x y : Number} (ha : a.evaluate = .ok x)
    (hb : b.evaluate = .ok y) (hy : y.isZero = true) :
    Raises (binary .divide a b) (.divisionByZero (binary .divide a b))
  | nonFinite {op : BinaryOp} {a b : Term} {x y : Number} (ha : a.evaluate = .ok x)
    (hb : b.evaluate = .ok y) (hy : ¬(op = .divide ∧ y.isZero = true))
    (h : (op.apply x y).isFinite = false) :
    Raises (binary op a b) (.nonFinite (binary op a b))

inductive FirstFault : List Term → Error → Prop
  | here {t : Term} {ts : List Term} {e : Error} (h : t.Raises e) : FirstFault (t :: ts) e
  | later {t : Term} {ts : List Term} {e : Error} (ht : t.Succeeds) (h : FirstFault ts e) :
    FirstFault (t :: ts) e

theorem firstFault_singleton_iff {t : Term} {e : Error} : FirstFault [t] e ↔ t.Raises e := by
  constructor
  · intro h
    cases h with
    | here h => exact h
    | later _ h => cases h
  · exact .here

theorem firstFault_append_iff {ts us : List Term} {e : Error} :
    FirstFault (ts ++ us) e ↔
      FirstFault ts e ∨ (∀ t ∈ ts, t.Succeeds) ∧ FirstFault us e := by
  induction ts with
  | nil =>
    constructor
    · intro h
      exact .inr ⟨List.forall_mem_nil _, h⟩
    · rintro (h | ⟨-, h⟩)
      · cases h
      · exact h
  | cons t ts ih =>
    rw [List.forall_mem_cons]
    constructor
    · intro h
      cases h with
      | here h => exact .inl (.here h)
      | later ht h =>
        rcases ih.mp h with h | ⟨hts, h⟩
        · exact .inl (.later ht h)
        · exact .inr ⟨⟨ht, hts⟩, h⟩
    · rintro (h | ⟨⟨ht, hts⟩, h⟩)
      · cases h with
        | here h => exact .here h
        | later ht h => exact .later ht (ih.mpr (.inl h))
      · exact .later ht (ih.mpr (.inr ⟨hts, h⟩))

theorem succeeds_of_mem_operands {t a : Term} (h : t.Succeeds) (ha : a ∈ t.operands) :
    a.Succeeds := by
  cases t with
  | var name => cases ha
  | const name => cases ha
  | num x => cases ha
  | minus b =>
    obtain ⟨x, hx⟩ := h
    obtain ⟨y, hy, -⟩ := bind_eq_ok_iff.mp hx
    rw [List.mem_singleton.mp ha]
    exact ⟨y, hy⟩
  | binary op b c =>
    obtain ⟨z, hz⟩ := h
    obtain ⟨x, hx, hz⟩ := bind_eq_ok_iff.mp hz
    obtain ⟨y, hy, -⟩ := bind_eq_ok_iff.mp hz
    rcases List.mem_cons.mp ha with rfl | ha
    · exact ⟨x, hx⟩
    · rw [List.mem_singleton.mp ha]
      exact ⟨y, hy⟩

theorem succeeds_of_mem_parts {t u : Term} (h : t.Succeeds) (hu : u ∈ t.parts) : u.Succeeds := by
  induction hu using parts_induction with
  | self => exact h
  | operand ha _ ih => exact ih (succeeds_of_mem_operands h ha)

theorem succeeds_iff (t : Term) : t.Succeeds ↔ ∀ u ∈ t.parts, u.Succeeds :=
  ⟨fun h _ hu => succeeds_of_mem_parts h hu, fun h => h t t.mem_parts_self⟩

theorem combine_eq_error_iff {t : Term} {op : BinaryOp} {x y : Number} {e : Error} :
    t.combine op x y = .error e ↔
      (op = .divide ∧ y.isZero = true) ∧ e = .divisionByZero t ∨
        ¬(op = .divide ∧ y.isZero = true) ∧ (op.apply x y).isFinite = false ∧
          e = .nonFinite t := by
  unfold combine
  by_cases hzero : op = .divide ∧ y.isZero = true
  · rw [if_pos hzero]
    constructor
    · intro h
      cases h
      exact .inl ⟨hzero, rfl⟩
    · rintro (⟨-, rfl⟩ | ⟨h, -⟩)
      · rfl
      · exact absurd hzero h
  · rw [if_neg hzero]
    cases op.apply x y with
    | finite z =>
      constructor
      · intro h
        cases h
      · rintro (⟨h, -⟩ | ⟨-, h, -⟩)
        · exact absurd h hzero
        · cases h
    | _ =>
      constructor
      · intro h
        cases h
        exact .inr ⟨hzero, rfl, rfl⟩
      · rintro (⟨h, -⟩ | ⟨-, -, rfl⟩)
        · exact absurd h hzero
        · rfl

theorem raises_binary_iff {op : BinaryOp} {a b : Term} {e : Error} :
    (binary op a b).Raises e ↔ ∃ x y, a.evaluate = .ok x ∧ b.evaluate = .ok y ∧
      (binary op a b).combine op x y = .error e := by
  constructor
  · intro h
    cases h with
    | divisionByZero ha hb hy =>
      exact ⟨_, _, ha, hb, combine_eq_error_iff.mpr (.inl ⟨⟨rfl, hy⟩, rfl⟩)⟩
    | nonFinite ha hb hy h =>
      exact ⟨_, _, ha, hb, combine_eq_error_iff.mpr (.inr ⟨hy, h, rfl⟩)⟩
  · rintro ⟨x, y, ha, hb, h⟩
    rcases combine_eq_error_iff.mp h with ⟨⟨rfl, hy⟩, rfl⟩ | ⟨hy, hfinite, rfl⟩
    · exact .divisionByZero ha hb hy
    · exact .nonFinite ha hb hy hfinite

theorem evaluate_eq_error_iff {t : Term} {e : Error} :
    t.evaluate = .error e ↔ FirstFault t.parts e := by
  induction t with
  | var name =>
    rw [parts, firstFault_singleton_iff]
    constructor
    · intro h
      cases h
      exact .var name
    · rintro ⟨⟩
      rfl
  | const name =>
    rw [parts, firstFault_singleton_iff]
    constructor
    · intro h
      cases h
      exact .const name
    · rintro ⟨⟩
      rfl
  | num x =>
    rw [parts, firstFault_singleton_iff]
    constructor
    · intro h
      cases h
    · rintro ⟨⟩
  | minus a ih =>
    rw [parts, firstFault_append_iff, firstFault_singleton_iff, ← ih, evaluate, bind_eq_error_iff]
    constructor
    · rintro (h | ⟨x, -, h⟩)
      · exact .inl h
      · cases h
    · rintro (h | ⟨-, ⟨⟩⟩)
      exact .inl h
  | binary op a b iha ihb =>
    -- The operands are parts before the term itself, and they come first in its reduction, too.
    rw [parts, firstFault_append_iff, firstFault_append_iff, firstFault_singleton_iff, ← iha, ← ihb,
      raises_binary_iff, List.forall_mem_append, ← succeeds_iff, ← succeeds_iff, evaluate,
      bind_eq_error_iff]
    simp only [bind_eq_error_iff]
    constructor
    · rintro (h | ⟨x, hx, h | ⟨y, hy, h⟩⟩)
      · exact .inl (.inl h)
      · exact .inl (.inr ⟨⟨x, hx⟩, h⟩)
      · exact .inr ⟨⟨⟨x, hx⟩, ⟨y, hy⟩⟩, x, y, hx, hy, h⟩
    · rintro ((h | ⟨⟨x, hx⟩, h⟩) | ⟨-, x, y, hx, hy, h⟩)
      · exact .inl h
      · exact .inr ⟨x, hx, .inl h⟩
      · exact .inr ⟨x, hx, .inr ⟨y, hy, h⟩⟩

theorem Raises.evaluate_eq {t : Term} {e : Error} (h : t.Raises e) : t.evaluate = .error e := by
  cases t with
  | var name =>
    cases h
    rfl
  | const name =>
    cases h
    rfl
  | num x => cases h
  | minus a => cases h
  | binary op a b =>
    obtain ⟨x, y, ha, hb, h⟩ := raises_binary_iff.mp h
    rw [evaluate, ha, hb]
    exact h

/-- What is the matter is said with the text of `t`. -/
def Blames (t : Term) (e : Error) : Prop :=
  e.kind = .notEvaluable ∧ e.detail = "term " ++ t.text ∨
    e.kind = .divisionByZero ∧ e.detail = "division by zero in " ++ t.text ∨
    e.kind = .nonFinite ∧ e.detail = "non-finite result in " ++ t.text

theorem Raises.blames {t : Term} {e : Error} (h : t.Raises e) : t.Blames e := by
  cases h with
  | var name => exact .inl ⟨rfl, rfl⟩
  | const name => exact .inl ⟨rfl, rfl⟩
  | divisionByZero ha hb hy => exact .inr (.inl ⟨rfl, rfl⟩)
  | nonFinite ha hb hy h => exact .inr (.inr ⟨rfl, rfl⟩)

end Term

open Term (FirstFault)

namespace Comparison

structure DecidesInTurn (c : Comparison) (r : Except Error Bool) : Prop where
  error_iff : ∀ e, r = .error e ↔
    FirstFault c.left.parts e ∨ c.left.Succeeds ∧ FirstFault c.right.parts e
  ok_iff : ∀ v, r = .ok v ↔
    ∃ x y, c.left.evaluate = .ok x ∧ c.right.evaluate = .ok y ∧ c.op.holds x y = v

theorem reduce_eq_error_iff {c : Comparison} {e : Error} : c.reduce = .error e ↔
    c.left.evaluate = .error e ∨ c.left.Succeeds ∧ c.right.evaluate = .error e := by
  simp only [reduce, bind_eq_error_iff]
  constructor
  · rintro (h | ⟨x, hx, h | ⟨y, -, h⟩⟩)
    · exact .inl h
    · exact .inr ⟨⟨x, hx⟩, h⟩
    · cases h
  · rintro (h | ⟨⟨x, hx⟩, h⟩)
    · exact .inl h
    · exact .inr ⟨x, hx, .inl h⟩

theorem decidesInTurn_evaluate {c : Comparison} (h : c.isNumeric = true) :
    c.DecidesInTurn c.evaluate.value where
  error_iff e := by
    rw [evaluate_of_isNumeric h, map_eq_error_iff, reduce_eq_error_iff,
      Term.evaluate_eq_error_iff, Term.evaluate_eq_error_iff]
  ok_iff v := by
    rw [evaluate_of_isNumeric h, map_eq_ok_iff]
    constructor
    · rintro ⟨⟨x, y⟩, hxy, hv⟩
      obtain ⟨hx, hy⟩ := reduce_eq_ok_iff.mp hxy
      exact ⟨x, y, hx, hy, hv⟩
    · rintro ⟨x, y, hx, hy, hv⟩
      exact ⟨(x, y), reduce_eq_ok_iff.mpr ⟨hx, hy⟩, hv⟩

theorem first_fault_is_reported :
    (∀ t : Term, t.Succeeds ↔ ∀ u ∈ t.parts, u.Succeeds) ∧
      (∀ (t : Term) (e : Error), t.evaluate = .error e ↔ FirstFault t.parts e) ∧
      (∀ (t : Term) (e : Error), t.Raises e → t.evaluate = .error e ∧ t.Blames e) ∧
      (∀ c : Comparison, c.isNumeric = true → c.DecidesInTurn c.evaluate.value) ∧
      ∀ q : Equality, q.isNumeric = true → q.toComparison.DecidesInTurn q.evaluate.value := by
  refine ⟨?_, ?_, ?_, ?_, ?_⟩
  · exact Term.succeeds_iff
  · intro t e
    exact Term.evaluate_eq_error_iff
  · intro t e h
    exact ⟨h.evaluate_eq, h.blames⟩
  · intro c h
    exact decidesInTurn_evaluate h
  · intro q h
    exact decidesInTurn_evaluate (c := q.toComparison) h

theorem first_fault_is_reported_overflow :
    let zero : Number := ⟨true, 0, by decide⟩
    let largest : Number := ⟨false, 2047 * binade - 1, by decide⟩
    let product : Term := .binary .multiply (.num largest) (.num largest)
    let quotient : Term := .binary .divide (.num largest) (.num zero)
    let c : Comparison := ⟨.less, .binary .add product quotient, quotient⟩
    let q : Equality := ⟨.minus (.num zero), quotient⟩
    product.Raises (.nonFinite product) ∧ product.evaluate = .error (.nonFinite product) ∧
      product.Blames (.nonFinite product) ∧
      FirstFault c.left.parts (.nonFinite product) ∧ c.isNumeric = true ∧
      c.evaluate.value = .error (.nonFinite product) ∧
      quotient.Raises (.divisionByZero quotient) ∧ q.isNumeric = true ∧
      q.evaluate.value = .error (.divisionByZero quotient) := by
  intro zero largest product quotient c q
  obtain ⟨-, hfirst, hraises, hcomparison, hequality⟩ := first_fault_is_reported
  have hoverflow : (BinaryOp.apply .multiply largest largest).isFinite = false := by
    decide +kernel
  have hproduct : product.Raises (.nonFinite product) :=
    .nonFinite rfl rfl (fun h => nomatch h.1) hoverflow
  have hquotient : quotient.Raises (.divisionByZero quotient) := .divisionByZero rfl rfl rfl
  have hleft : FirstFault c.left.parts (.nonFinite product) :=
    .later ⟨largest, rfl⟩ (.later ⟨largest, rfl⟩ (.here hproduct))
  have hc : c.isNumeric = true := rfl
  have hq : q.isNumeric = true := rfl
  have hcverdict := ((hcomparison c hc).error_iff _).mpr (.inl hleft)
  have hright := (hfirst quotient _).mp (hraises quotient _ hquotient).1
  have hqverdict := ((hequality q hq).error_iff _).mpr (.inr ⟨⟨zero.neg, rfl⟩, hright⟩)
  exact ⟨hproduct, (hraises product _ hproduct).1, (hraises product _ hproduct).2, hleft, hc,
    hcverdict, hquotient, hq, hqverdict⟩

end Comparison

end PlanComparison
