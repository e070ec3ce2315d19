import PlanComparison.Proofs.Outcome

namespace PlanComparison

namespace Comparator

def admits : Comparator → Ordering → Bool
  | equal, o => o.isEq
  | less, o => o.isLT
  | lessEqual, o => o.isLT || o.isEq
  | greater, o => o.isGT
  | greaterEqual, o => o.isGT || o.isEq
  | notEqual, o => !o.isEq

theorem holds_eq_admits (op : Comparator) (x y : Number) :
    op.holds x y = op.admits (compare x.units y.units) := by
  rcases Int.lt_trichotomy x.units y.units with h | h | h
  · rw [Int.compare_eq_lt.mpr h]
    cases op <;> simp [holds, admits, Number.same, Number.lt, Number.le] <;> omega
  · rw [Int.compare_eq_eq.mpr h]
    cases op <;> simp [holds, admits, Number.same, Number.lt, Number.le, h]
  · rw [Int.compare_eq_gt.mpr h]
    cases op <;> simp [holds, admits, Number.same, Number.lt, Number.le] <;> omega

def truth (op : Comparator) (a b : Term) : Except Error Bool :=
  (Comparison.mk op a b).evaluate.value

theorem truth_eq_ok_iff {op : Comparator} {a b : Term} {v : Bool} :
    op.truth a b = .ok v ↔
      (∃ x y, a.evaluate = .ok x ∧ b.evaluate = .ok y ∧ op.holds x y = v) ∨
        ∃ m n, a = .const m ∧ b = .const n ∧ op.holdsForNames m n = some v := by
  constructor
  · intro h
    cases hnum : (Comparison.mk op a b).isNumeric with
    | true =>
      rw [truth, Comparison.evaluate_of_isNumeric hnum, map_eq_ok_iff] at h
      obtain ⟨⟨x, y⟩, hreduce, hv⟩ := h
      obtain ⟨hx, hy⟩ := Comparison.reduce_eq_ok_iff.mp hreduce
      exact .inl ⟨x, y, hx, hy, hv⟩
    | false =>
      rw [truth, Comparison.evaluate_of_not_isNumeric hnum] at h
      cases hverdict : (Comparison.mk op a b).nameVerdict with
      | none =>
        rw [hverdict] at h
        cases h
      | some w =>
        rw [hverdict] at h
        cases h
        obtain ⟨⟨m, n⟩, hnames, hv⟩ := Option.bind_eq_some_iff.mp hverdict
        obtain ⟨hm, hn⟩ := Comparison.constants?_eq_some_iff.mp hnames
        exact .inr ⟨m, n, hm, hn, hv⟩
  · rintro (⟨x, y, hx, hy, hv⟩ | ⟨m, n, rfl, rfl, hv⟩)
    · have hnum : (Comparison.mk op a b).isNumeric = true :=
        Bool.and_eq_true_iff.mpr ⟨Term.isNumeric_of_evaluate hx, Term.isNumeric_of_evaluate hy⟩
      rw [truth, Comparison.evaluate_of_isNumeric hnum, map_eq_ok_iff]
      exact ⟨(x, y), Comparison.reduce_eq_ok_iff.mpr ⟨hx, hy⟩, hv⟩
    · have hverdict : (Comparison.mk op (.const m) (.const n)).nameVerdict = some v := hv
      rw [truth, Comparison.evaluate_of_not_isNumeric rfl, hverdict]
      rfl

def converse : Comparator → Comparator
  | equal => equal
  | less => greater
  | lessEqual => greaterEqual
  | greater => less
  | greaterEqual => lessEqual
  | notEqual => notEqual

theorem holds_converse (op : Comparator) (x y : Number) : op.converse.holds y x = op.holds x y := by
  have hsame : y.same x = x.same y := by
    rw [Number.same, Number.same, Bool.beq_comm]
  cases op with
  | equal => exact hsame
  | notEqual => exact congrArg not hsame
  | _ => rfl

theorem holdsForNames_converse (op : Comparator) (m n : String) :
    op.converse.holdsForNames n m = op.holdsForNames m n := by
  cases op with
  | equal => exact congrArg some Bool.beq_comm
  | notEqual => exact congrArg (fun v => some (!v)) Bool.beq_comm
  | _ => rfl

theorem truth_converse_eq_ok {op : Comparator} {a b : Term} {v : Bool} (h : op.truth a b = .ok v) :
    op.converse.truth b a = .ok v := by
  rcases truth_eq_ok_iff.mp h with ⟨x, y, hx, hy, hv⟩ | ⟨m, n, hm, hn, hv⟩
  · exact truth_eq_ok_iff.mpr (.inl ⟨y, x, hy, hx, (op.holds_converse x y).trans hv⟩)
  · exact truth_eq_ok_iff.mpr (.inr ⟨n, m, hn, hm, (op.holdsForNames_converse m n).trans hv⟩)

theorem converse_converse (op : Comparator) : op.converse.converse = op := by
  cases op <;> rfl

theorem toOption_truth_converse (op : Comparator) (a b : Term) :
    (op.converse.truth b a).toOption = (op.truth a b).toOption := by
  cases h : op.truth a b with
  | ok v => rw [truth_converse_eq_ok h]
  | error e =>
    cases hc : op.converse.truth b a with
    | error e' => rfl
    | ok v =>
      have hback := truth_converse_eq_ok hc
      rw [converse_converse, h] at hback
      cases hback

theorem truth_trans {op : Comparator}
    (hnum : ∀ x y z : Number, op.holds x y = true → op.holds y z = true → op.holds x z = true)
    (hname : ∀ l m n, op.holdsForNames l m = some true → op.holdsForNames m n = some true →
      op.holdsForNames l n = some true)
    {a b c : Term} (hab : op.truth a b = .ok true) (hbc : op.truth b c = .ok true) :
    op.truth a c = .ok true := by
  rw [truth_eq_ok_iff] at hab hbc ⊢
  -- The middle term is one number or one name in both; it cannot be a number here and a name there.
  rcases hab with ⟨x, y, hx, hy, hxy⟩ | ⟨l, m, hl, hm, hlm⟩
  · rcases hbc with ⟨y', z, hy', hz, hyz⟩ | ⟨m, n, hm, hn, hmn⟩
    · rw [hy] at hy'
      cases hy'
      exact .inl ⟨x, z, hx, hz, hnum x y z hxy hyz⟩
    · rw [hm] at hy
      cases hy
  · rcases hbc with ⟨y, z, hy, hz, hyz⟩ | ⟨m', n, hm', hn, hmn⟩
    · rw [hm] at hy
      cases hy
    · rw [hm] at hm'
      cases hm'
      exact .inr ⟨l, n, hl, hn, hname l m n hlm hmn⟩

theorem lessEqual_trans {a b c : Term} (hab : lessEqual.truth a b = .ok true)
    (hbc : lessEqual.truth b c = .ok true) : lessEqual.truth a c = .ok true := by
  refine truth_trans ?_ ?_ hab hbc
  · intro x y z hxy hyz
    simp only [holds, Number.le, decide_eq_true_eq] at *
    omega
  · intro l m n hlm
    cases hlm

theorem equal_trans {a b c : Term} (hab : equal.truth a b = .ok true)
    (hbc : equal.truth b c = .ok true) : equal.truth a c = .ok true := by
  refine truth_trans ?_ ?_ hab hbc
  · intro x y z hxy hyz
    simp only [holds, Number.same, beq_iff_eq] at *
    omega
  · intro l m n hlm hmn
    simp only [holdsForNames, Option.some.injEq, beq_iff_eq] at *
    exact hlm.trans hmn

theorem equal_self {a : Term} {x : Number} (h : a.evaluate = .ok x) :
    equal.truth a a = .ok true :=
  truth_eq_ok_iff.mpr (.inl ⟨x, x, h, h, beq_self_eq_true x.units⟩)

theorem truths_of_isNumeric {a b : Term} (ha : a.isNumeric = true) (hb : b.isNumeric = true) :
    (∃ e : Error, e.IsArithmetic ∧ ∀ op : Comparator, op.truth a b = .error e) ∨
      ∃ x y : Number, a.evaluate = .ok x ∧ b.evaluate = .ok y ∧
        ∀ op : Comparator, op.truth a b = .ok (op.admits (compare x.units y.units)) := by
  have hnum (op : Comparator) : (Comparison.mk op a b).isNumeric = true :=
    Bool.and_eq_true_iff.mpr ⟨ha, hb⟩
  -- No operand is reduced in another way for another comparator, so all of them fail alike.
  have htruth (op : Comparator) :
      op.truth a b = (Comparison.mk equal a b).reduce.map fun p => op.holds p.1 p.2 :=
    Comparison.evaluate_of_isNumeric (hnum op)
  rcases Comparison.calculated_reduce (hnum equal) with ⟨⟨x, y⟩, hxy⟩ | ⟨e, he, harithmetic⟩
  · obtain ⟨hx, hy⟩ := Comparison.reduce_eq_ok_iff.mp hxy
    refine .inr ⟨x, y, hx, hy, fun op => ?_⟩
    rw [htruth, hxy, ← holds_eq_admits]
    rfl
  · refine .inl ⟨e, harithmetic, fun op => ?_⟩
    rw [htruth, he]
    rfl

theorem comparators_share_one_preorder :
    (∀ a b : Term, a.isNumeric = true → b.isNumeric = true →
      (∃ e : Error, e.IsArithmetic ∧ ∀ op : Comparator, op.truth a b = .error e) ∨
        ∃ (x y : Number) (o : Ordering),
          a.evaluate = .ok x ∧ b.evaluate = .ok y ∧ compare x.units y.units = o ∧
            less.truth a b = .ok o.isLT ∧ equal.truth a b = .ok o.isEq ∧
            greater.truth a b = .ok o.isGT ∧ lessEqual.truth a b = .ok (o.isLT || o.isEq) ∧
            greaterEqual.truth a b = .ok (o.isGT || o.isEq) ∧
            notEqual.truth a b = .ok (!o.isEq)) ∧
      (∀ a b : Term,
        (greater.truth b a).toOption = (less.truth a b).toOption ∧
          (greaterEqual.truth b a).toOption = (lessEqual.truth a b).toOption ∧
          (equal.truth b a).toOption = (equal.truth a b).toOption) ∧
      (∀ a b c : Term, lessEqual.truth a b = .ok true → lessEqual.truth b c = .ok true →
        lessEqual.truth a c = .ok true) ∧
      (∀ a b c : Term, equal.truth a b = .ok true → equal.truth b c = .ok true →
        equal.truth a c = .ok true) ∧
      (∀ (a : Term) (x : Number), a.evaluate = .ok x → equal.truth a a = .ok true) ∧
      ∀ a b : Term,
        (Comparison.mk notEqual a b).isEvaluable = (Comparison.mk equal a b).isEvaluable ∧
          outcome (notEqual.truth a b) = (outcome (equal.truth a b)).map not := by
  refine ⟨?_, ?_, ?_, ?_, ?_, ?_⟩
  · intro a b ha hb
    rcases truths_of_isNumeric ha hb with hfail | ⟨x, y, hx, hy, htruth⟩
    · exact .inl hfail
    · exact .inr ⟨x, y, _, hx, hy, rfl, htruth less, htruth equal, htruth greater,
        htruth lessEqual, htruth greaterEqual, htruth notEqual⟩
  · intro a b
    exact ⟨toOption_truth_converse less a b, toOption_truth_converse lessEqual a b,
      toOption_truth_converse equal a b⟩
  · intro a b c
    exact lessEqual_trans
  · intro a b c
    exact equal_trans
  · intro a x
    exact equal_self
  · intro a b
    exact ⟨rfl, Comparison.outcome_evaluate_notEqual a b⟩

theorem comparators_share_one_preorder_zeros :
    let zero : Term := .num ⟨false, 0, by decide⟩
    let negated : Term := .minus zero
    let one : Term := .num ⟨false, 1023 * binade, by decide⟩
    zero.isNumeric = true ∧ negated.isNumeric = true ∧
      (∃ o : Ordering,
        less.truth zero negated = .ok o.isLT ∧ equal.truth zero negated = .ok o.isEq ∧
          greater.truth zero negated = .ok o.isGT) ∧
      lessEqual.truth zero negated = .ok true ∧ lessEqual.truth negated one = .ok true ∧
      lessEqual.truth zero one = .ok true ∧
      equal.truth zero negated = .ok true ∧ equal.truth negated zero = .ok true ∧
      equal.truth zero zero = .ok true ∧
      negated.evaluate = .ok ⟨true, 0, by decide⟩ ∧ equal.truth negated negated = .ok true := by
  intro zero negated one
  obtain ⟨hrelated, -, hle, hequal, hself, -⟩ := comparators_share_one_preorder
  have hnegated : lessEqual.truth zero negated = .ok true := by decide +kernel
  have hone : lessEqual.truth negated one = .ok true := by decide +kernel
  have hleft : equal.truth zero negated = .ok true := by decide +kernel
  have hright : equal.truth negated zero = .ok true := by decide +kernel
  have hvalue : negated.evaluate = .ok ⟨true, 0, by decide⟩ := rfl
  refine ⟨rfl, rfl, ?_, hnegated, hone, hle _ _ _ hnegated hone, hleft, hright,
    hequal _ _ _ hleft hright, hvalue, hself negated _ hvalue⟩
  rcases hrelated zero negated rfl rfl with ⟨e, -, he⟩ | ⟨x, y, o, -, -, -, hless, heq, hgreater, -⟩
  · cases hleft.symm.trans (he equal)
  · exact ⟨o, hless, heq, hgreater⟩

end Comparator

end PlanComparison
