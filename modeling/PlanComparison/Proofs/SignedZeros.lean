import PlanComparison.Proofs.ExactRounding
import PlanComparison.Term.Evaluation

namespace PlanComparison

theorem oneUnits_pos : 0 < oneUnits := by
  unfold oneUnits
  generalize 1074 = p
  exact Nat.two_pow_pos p

namespace Number

theorem same_iff (x y : Number) : x.same y = true ↔ x.units = y.units :=
  beq_iff_eq

theorem natAbs_units (x : Number) : x.units.natAbs = x.magnitude := by
  rw [units]
  split <;> simp

theorem magnitude_eq_of_same {x y : Number} (h : x.same y = true) : x.magnitude = y.magnitude := by
  rw [← x.natAbs_units, (same_iff x y).mp h, y.natAbs_units]

theorem rank_eq_of_same {x y : Number} (h : x.same y = true) : x.rank = y.rank := by
  rw [← nearestRank_magnitude x, magnitude_eq_of_same h, nearestRank_magnitude y]

theorem isZero_eq_of_same {x y : Number} (h : x.same y = true) : x.isZero = y.isZero := by
  rw [isZero, rank_eq_of_same h, isZero]

theorem isZero_of_magnitude {x : Number} (h : x.magnitude = 0) : x.isZero = true := by
  have hrank := nearestRank_magnitude x
  rw [h] at hrank
  rw [isZero, ← hrank]
  rfl

theorem negative_eq_of_same {x y : Number} (h : x.same y = true) (hne : y.magnitude ≠ 0) :
    x.negative = y.negative := by
  have hunits := (same_iff x y).mp h
  have hmagnitude := magnitude_eq_of_same h
  rw [units, units] at hunits
  cases hx : x.negative <;> cases hy : y.negative <;> simp [hx, hy] at hunits ⊢ <;> omega

theorem eq_or_isZero_of_same {x y : Number} (h : x.same y = true) :
    x = y ∨ x.isZero = true ∧ y.isZero = true := by
  cases hy : y.isZero with
  | true => exact .inr ⟨(isZero_eq_of_same h).trans hy, rfl⟩
  | false =>
    have hne : y.magnitude ≠ 0 := fun hzero => by simp [isZero_of_magnitude hzero] at hy
    have hnegative := negative_eq_of_same h hne
    have hrank := rank_eq_of_same h
    cases x
    cases y
    cases hnegative
    cases hrank
    exact .inl rfl

end Number

namespace Binary64

inductive Alike : Binary64 → Binary64 → Prop
  | finite {x y : Number} (h : x.same y = true) : Alike (.finite x) (.finite y)
  | nonFinite {v w : Binary64} (hv : v.isFinite = false) (hw : w.isFinite = false) : Alike v w

theorem Alike.refl (v : Binary64) : v.Alike v := by
  cases v with
  | finite x => exact .finite (beq_self_eq_true x.units)
  | infinite negative => exact .nonFinite rfl rfl
  | nan => exact .nonFinite rfl rfl

theorem alike_nearest {s t : Bool} {n : Nat} (h : n ≠ 0 → s = t) {d : Nat} (hd : 0 < d) :
    (nearest s n d).Alike (nearest t n d) := by
  by_cases hn : n = 0
  · subst hn
    have hzeros : (Number.mk s 0 (by decide)).same (Number.mk t 0 (by decide)) = true := by
      cases s <;> cases t <;> rfl
    rw [nearest_zero s hd, nearest_zero t hd]
    exact .finite hzeros
  · rw [h hn]
    exact .refl _

end Binary64

namespace Number

variable {x x' y y' : Number} (hx : x.same x' = true) (hy : y.same y' = true)

include hy

theorem same_neg : y.neg.same y'.neg = true := by
  have hneg (z : Number) : z.neg.units = -z.units := by
    rw [units, units, neg]
    cases z.negative <;> simp [magnitude]
  rw [same_iff, hneg, hneg, (same_iff y y').mp hy]

include hx

theorem alike_add : (x.add y).Alike (x'.add y') := by
  have hsum : x.units + y.units = x'.units + y'.units := by
    rw [(same_iff x x').mp hx, (same_iff y y').mp hy]
  rw [add, add, hsum]
  refine Binary64.alike_nearest (fun h => ?_) Nat.one_pos
  rw [if_neg (Int.natAbs_ne_zero.mp h), if_neg (Int.natAbs_ne_zero.mp h)]

theorem alike_mul : (x.mul y).Alike (x'.mul y') := by
  rw [mul, mul, magnitude_eq_of_same hx, magnitude_eq_of_same hy]
  -- Where the product is not zero, neither factor is, and so the signs are the same.
  refine Binary64.alike_nearest (fun h => ?_) oneUnits_pos
  rw [negative_eq_of_same hx (Nat.ne_zero_of_mul_ne_zero_left h),
    negative_eq_of_same hy (Nat.ne_zero_of_mul_ne_zero_right h)]

theorem alike_div (hdivisor : y.isZero = false) : (x.div y).Alike (x'.div y') := by
  -- Divisors of different signs would give infinities or quotients of different signs.
  have hy' : y = y' := by
    rcases eq_or_isZero_of_same hy with h | ⟨hzero, -⟩
    · exact h
    · cases hzero.symm.trans hdivisor
  subst hy'
  have hne : ¬y.isZero = true := by simp [hdivisor]
  have hpos : 0 < y.magnitude := Nat.pos_of_ne_zero fun h => hne (isZero_of_magnitude h)
  rw [div, div, if_neg hne, if_neg hne, magnitude_eq_of_same hx]
  refine Binary64.alike_nearest (fun h => ?_) hpos
  rw [negative_eq_of_same hx (Nat.ne_zero_of_mul_ne_zero_left h)]

end Number

end PlanComparison
