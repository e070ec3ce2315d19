import Mathlib.Algebra.Group.Nat.Defs
import PlanComparison.Number.Shortest

namespace PlanComparison

theorem roundHalfEven_mul_right (n d : Nat) {k : Nat} (hk : 0 < k) :
    roundHalfEven (n * k) (d * k) = roundHalfEven n d := by
  have hbelow : 2 * (n % d * k) < d * k ↔ 2 * (n % d) < d := by
    rw [← Nat.mul_assoc]
    exact Nat.mul_lt_mul_right hk
  have htie : 2 * (n % d * k) = d * k ↔ 2 * (n % d) = d := by
    rw [← Nat.mul_assoc]
    exact Nat.mul_left_inj (Nat.ne_of_gt hk)
  simp only [roundHalfEven, Nat.mul_div_mul_right _ _ hk, Nat.mul_mod_mul_right, hbelow, htie]

theorem roundHalfEven_mul_self (m : Nat) {d : Nat} (hd : 0 < d) : roundHalfEven (m * d) d = m := by
  have hbelow : 2 * (m * d % d) < d := by
    rw [Nat.mul_mod_left]
    exact hd
  rw [roundHalfEven, if_pos (.inl hbelow), Nat.mul_div_cancel m hd]

namespace Number

theorem nearestRank_mul_right (n d : Nat) {k : Nat} (hk : 0 < k) :
    nearestRank (n * k) (d * k) = nearestRank n d := by
  simp only [nearestRank, Nat.mul_div_mul_right _ _ hk, Nat.mul_right_comm d k,
    roundHalfEven_mul_right _ _ hk]

theorem log2_shift {m k : Nat} (hlow : k = 0 ∨ binade ≤ m) (hhigh : m < 2 * binade) :
    (m * 2 ^ k).log2 - 52 = k := by
  have hbinade : binade = 2 ^ 52 := rfl
  rw [hbinade] at hlow hhigh
  by_cases hm : m = 0
  · have hk : k = 0 := by omega
    subst hm hk
    rfl
  have hne : m * 2 ^ k ≠ 0 := Nat.mul_ne_zero hm (Nat.ne_of_gt (Nat.two_pow_pos k))
  rcases hlow with rfl | hlow
  · have hlog : (m * 2 ^ 0).log2 < 53 := (Nat.log2_lt hne).mpr (by omega)
    omega
  · have hlog : (m * 2 ^ k).log2 = 52 + k := by
      rw [Nat.log2_eq_iff hne, Nat.pow_add, Nat.add_right_comm, Nat.pow_add 2 (52 + 1)]
      exact ⟨Nat.mul_le_mul_right _ hlow, Nat.mul_lt_mul_of_pos_right hhigh (Nat.two_pow_pos k)⟩
    omega

theorem nearestRank_shift {m k : Nat} (hlow : k = 0 ∨ binade ≤ m) (hhigh : m < 2 * binade) :
    nearestRank (m * 2 ^ k) 1 = k * binade + m := by
  have hround : roundHalfEven (m * 2 ^ k) (1 * 2 ^ k) = m := by
    rw [Nat.one_mul]
    exact roundHalfEven_mul_self m (Nat.two_pow_pos k)
  rw [nearestRank, Nat.div_one, log2_shift hlow hhigh]
  exact congrArg _ hround

theorem significand_lt (x : Number) : x.rank - scale x.rank * binade < 2 * binade := by
  have hbelow : x.rank < (scale x.rank + 2) * binade := by
    rw [← Nat.div_lt_iff_lt_mul (by decide), scale]
    omega
  have hpos : 0 < binade := by decide
  rw [Nat.add_mul] at hbelow
  omega

theorem nearestRank_magnitude (x : Number) : nearestRank x.magnitude 1 = x.rank := by
  have hdivmod := Nat.div_add_mod x.rank binade
  have hmod := Nat.mod_lt x.rank (show 0 < binade by decide)
  have hscale : scale x.rank * binade ≤ x.rank :=
    Nat.le_trans (Nat.mul_le_mul_right _ (Nat.sub_le _ 1)) (Nat.div_mul_le_self _ _)
  have hsplit : scale x.rank * binade + (x.rank - scale x.rank * binade) = x.rank := by omega
  refine (nearestRank_shift ?_ x.significand_lt).trans hsplit
  by_cases hfirst : x.rank / binade ≤ 1
  · exact .inl (Nat.sub_eq_zero_of_le hfirst)
  · right
    have hnext : (scale x.rank + 1) * binade ≤ x.rank := by
      rw [scale, Nat.sub_add_cancel (by omega)]
      exact Nat.div_mul_le_self _ _
    rw [Nat.add_mul] at hnext
    omega

end Number

namespace Binary64

theorem nearest_mul_right (negative : Bool) (n d : Nat) {k : Nat} (hk : 0 < k) :
    nearest negative (n * k) (d * k) = nearest negative n d := by
  rw [nearest, Number.nearestRank_mul_right n d hk, nearest]

theorem nearest_magnitude (x : Number) : nearest x.negative x.magnitude 1 = .finite x := by
  rw [nearest, Number.nearestRank_magnitude, ofRank, dif_pos x.rank_lt]

theorem nearest_zero (negative : Bool) {d : Nat} (hd : 0 < d) :
    nearest negative 0 d = .ofRank negative 0 := by
  have hrank : Number.nearestRank 0 d = 0 := by
    have hround := roundHalfEven_mul_self 0 (d := d * Nat.pow 2 0) (by rwa [Nat.mul_one])
    rw [Nat.zero_mul] at hround
    simp only [Number.nearestRank, Nat.zero_div, Nat.log2_zero, Nat.zero_sub, Nat.zero_mul, hround]
  rw [nearest, hrank]

end Binary64

namespace Decimal

theorem toBinary64_of_bounded {d : Decimal} (negative : Bool) (hlow : -1200 ≤ d.exponent)
    (hhigh : d.exponent ≤ 400) :
    d.toBinary64 negative = .nearest negative
      (d.coefficient * 10 ^ d.exponent.toNat * oneUnits) (10 ^ (-d.exponent).toNat) := by
  have hexponent : d.boundedExponent = d.exponent := by
    rw [boundedExponent]
    omega
  rw [toBinary64, hexponent]
  rfl

theorem toBinary64_of_zero (negative : Bool) (exponent : Int) :
    (Decimal.mk 0 exponent).toBinary64 negative = .ofRank negative 0 := by
  rw [toBinary64, Nat.zero_mul, Nat.zero_mul]
  exact Binary64.nearest_zero negative (Nat.pow_pos (by decide))

theorem toBinary64_pointed (negative : Bool) (c : Nat) :
    (Decimal.mk (c * 10) (-1)).toBinary64 negative = (Decimal.mk c 0).toBinary64 negative := by
  rw [toBinary64_of_bounded negative (by simp only; omega) (by simp only; omega),
    toBinary64_of_bounded negative (by simp only; omega) (by simp only; omega)]
  have hunits : c * 10 * 10 ^ 0 * oneUnits = c * 10 ^ 0 * oneUnits * 10 := by
    rw [Nat.pow_zero, Nat.mul_one, Nat.mul_one, Nat.mul_right_comm]
  exact (congrArg (Binary64.nearest negative · 10) hunits).trans
    (Binary64.nearest_mul_right negative _ 1 (by decide))

end Decimal

namespace Number

theorem exact_readsBack (x : Number) : x.exact.toBinary64 x.negative = .finite x := by
  have hunits (p : Nat) :
      x.magnitude * Nat.pow 5 p * 10 ^ 0 * Nat.pow 2 p = x.magnitude * 10 ^ p := by
    rw [Nat.pow_zero, Nat.mul_one, Nat.mul_assoc]
    exact congrArg _ (Nat.mul_pow 5 2 p).symm
  have hscaled (p : Nat) :
      Binary64.nearest x.negative (x.magnitude * 10 ^ p) (10 ^ p) = .finite x := by
    rw [← Binary64.nearest_magnitude x, ← Binary64.nearest_mul_right x.negative x.magnitude 1
      (Nat.pow_pos (n := p) (show 0 < 10 by decide)), Nat.one_mul]
  have hexponent : x.exact.exponent = -1074 := rfl
  have hwhole : x.exact.exponent.toNat = 0 := by omega
  have hplaces : (-x.exact.exponent).toNat = 1074 := by omega
  rw [Decimal.toBinary64_of_bounded x.negative (by omega) (by omega), hwhole, hplaces]
  unfold exact oneUnits
  -- The powers are not to be calculated.
  generalize 1074 = p
  rw [hunits, hscaled]

theorem readsBack_of_onGrid {tie : Tie} {x : Number} {exponent : Int} {d : Decimal}
    (h : x.onGrid tie exponent = some d) : d.toBinary64 x.negative = .finite x := by
  have hread : x.readsBack d = true := List.find?_some h
  exact eq_of_beq hread

theorem shortest_readsBack (tie : Tie) (x : Number) :
    (x.shortest tie).toBinary64 x.negative = .finite x := by
  cases hzero : x.isZero with
  | true =>
    have hrank : x.rank = 0 := eq_of_beq hzero
    rw [shortest, if_pos hzero, Decimal.toBinary64_of_zero, Binary64.ofRank,
      dif_pos (by decide)]
    simp only [← hrank]
  | false =>
    rw [shortest, hzero, if_neg Bool.false_ne_true]
    cases hfind : x.grids.findSome? (x.onGrid tie) with
    | none => exact exact_readsBack x
    | some d =>
      obtain ⟨exponent, -, hgrid⟩ := List.exists_of_findSome?_eq_some hfind
      exact readsBack_of_onGrid hgrid

theorem coefficient_shortest_ne_zero (tie : Tie) {x : Number} (h : x.isZero = false) :
    (x.shortest tie).coefficient ≠ 0 := by
  intro hcoefficient
  have hread := shortest_readsBack tie x
  have hmk : x.shortest tie = ⟨0, (x.shortest tie).exponent⟩ := by rw [← hcoefficient]
  rw [hmk, Decimal.toBinary64_of_zero, Binary64.ofRank, dif_pos (by decide)] at hread
  have hrank : 0 = x.rank := congrArg Number.rank (Binary64.finite.inj hread)
  rw [isZero, ← hrank] at h
  cases h

end Number

end PlanComparison
