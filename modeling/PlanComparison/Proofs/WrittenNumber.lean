import Mathlib.Data.List.Induction
import PlanComparison.Json.NumberReader
import PlanComparison.Proofs.ExactRounding
import PlanComparison.Proofs.NumeralText

namespace PlanComparison

namespace Digits

theorem head_ofNat_ne_zero {n : Nat} (h : n ≠ 0) : (ofNat n).head? ≠ some Digit.zero := by
  fun_induction ofNat n with
  | case1 n hn =>
    intro hzero
    exact h (congrArg Fin.val (Option.some.inj hzero))
  | case2 n hn ih =>
    have hprefix := ih (by omega)
    cases hds : ofNat (n / 10) with
    | nil => exact absurd hds (ofNat_ne_nil _)
    | cons d ds =>
      rw [hds] at hprefix
      exact hprefix

theorem value_append (ds es : List Digit) :
    value (ds ++ es) = value ds * 10 ^ es.length + value es := by
  induction es using List.reverseRecOn with
  | nil => simp [value]
  | append_singleton es e ih =>
    rw [← List.append_assoc, value_append_singleton, value_append_singleton, ih,
      List.length_append, List.length_singleton, Nat.pow_succ, ← Nat.mul_assoc]
    omega

theorem value_replicate_zero (k : Nat) : value (List.replicate k .zero) = 0 := by
  induction k with
  | zero => rfl
  | succ k ih =>
    rw [List.replicate_succ', value_append_singleton, ih]
    rfl

end Digits

namespace Numeral

open List

def places (d : Decimal) : List Digit :=
  replicate ((-d.exponent).toNat + 1 - (Digits.ofNat d.coefficient).length) .zero ++
    Digits.ofNat d.coefficient ++ replicate d.exponent.toNat .zero

theorem value_places (d : Decimal) :
    Digits.value (places d) = d.coefficient * 10 ^ d.exponent.toNat := by
  rw [places, Digits.value_append, Digits.value_append, Digits.value_replicate_zero,
    Digits.value_replicate_zero, Digits.value_ofNat, length_replicate, Nat.zero_mul, Nat.zero_add,
    Nat.add_zero]

theorem positional_eq (negative : Bool) (d : Decimal) :
    positional negative d = ⟨negative, (places d).take ((places d).length - (-d.exponent).toNat),
      (places d).drop ((places d).length - (-d.exponent).toNat), none⟩ := rfl

theorem lt_length_places (d : Decimal) : (-d.exponent).toNat < (places d).length := by
  simp only [places, length_append, length_replicate]
  omega

theorem length_fraction_positional (negative : Bool) (d : Decimal) :
    (positional negative d).fraction.length = (-d.exponent).toNat := by
  have hplaces := lt_length_places d
  rw [positional_eq, length_drop]
  omega

theorem decimal_positional (negative : Bool) (d : Decimal) :
    (positional negative d).decimal =
      ⟨d.coefficient * 10 ^ d.exponent.toNat, -(-d.exponent).toNat⟩ := by
  have hlength := length_fraction_positional negative d
  rw [decimal, hlength]
  simp only [positional_eq, take_append_drop, value_places, Option.getD_none, Int.zero_sub]

theorem decimal_pointed {x : Numeral} (h : x.fraction = []) :
    x.pointed.decimal = ⟨x.decimal.coefficient * 10, x.decimal.exponent - 1⟩ := by
  obtain ⟨negative, whole, fraction, exponent⟩ := x
  cases h
  simp [pointed, decimal, Digits.value_append_singleton, Digit.zero, Nat.mul_comm]

theorem pointed_of_ne_nil {x : Numeral} (h : x.fraction ≠ []) : x.pointed = x :=
  if_neg fun he => h (isEmpty_iff.mp he)

theorem negative_pointed (x : Numeral) : x.pointed.negative = x.negative := by
  rw [pointed]
  split <;> rfl

theorem toBinary64_pointed {x : Numeral} (h : x.exponent = none) :
    x.pointed.toBinary64 = x.toBinary64 := by
  by_cases hfraction : x.fraction = []
  · have hdecimal : x.decimal = ⟨x.decimal.coefficient, 0⟩ := by
      simp [decimal, hfraction, h]
    rw [toBinary64, negative_pointed, decimal_pointed hfraction, toBinary64, hdecimal]
    exact Decimal.toBinary64_pointed x.negative _
  · rw [pointed_of_ne_nil hfraction]

theorem toBinary64_positional (negative : Bool) {d : Decimal} (h : d.exponent ≤ 400) :
    (positional negative d).toBinary64 = d.toBinary64 negative := by
  rw [toBinary64, decimal_positional]
  change Decimal.toBinary64 negative _ = _
  by_cases he : d.exponent < 0
  · have hwhole : d.exponent.toNat = 0 := by omega
    have hplaces : -((-d.exponent).toNat : Int) = d.exponent := by omega
    rw [hwhole, hplaces, Nat.pow_zero, Nat.mul_one]
  · have hplaces : (-d.exponent).toNat = 0 := by omega
    rw [Decimal.toBinary64_of_bounded negative (by simp only; omega) (by simp only; omega),
      Decimal.toBinary64_of_bounded negative (by omega) h]
    simp [hplaces]

theorem decimal_scientific (negative : Bool) (d : Decimal) :
    (scientific negative d).decimal = d := by
  have hlength : 0 < (Digits.ofNat d.coefficient).length :=
    List.length_pos_iff.mpr (Digits.ofNat_ne_nil _)
  have hexponent : leading d - ((Digits.ofNat d.coefficient).length - 1 : Nat) = d.exponent := by
    rw [leading]
    omega
  simp only [scientific, decimal, take_append_drop, Digits.value_ofNat, length_drop,
    Option.getD_some, hexponent]

theorem Proper.pointed {x : Numeral} (h : x.Proper) : x.pointed.Proper := by
  rw [Numeral.pointed]
  split
  · exact ⟨h.whole_ne, h.leading⟩
  · exact h

theorem proper_scientific (negative : Bool) (d : Decimal) : (scientific negative d).Proper where
  whole_ne := by
    intro h
    rcases take_eq_nil_iff.mp h with h | h
    · cases h
    · exact Digits.ofNat_ne_nil _ h
  leading _ := by
    have hlength : 0 < (Digits.ofNat d.coefficient).length :=
      length_pos_iff.mpr (Digits.ofNat_ne_nil _)
    rw [scientific, length_take]
    omega

theorem head_places {d : Decimal}
    (h : (-d.exponent).toNat < (Digits.ofNat d.coefficient).length) :
    (places d).head? = (Digits.ofNat d.coefficient).head? := by
  have hpadding : (-d.exponent).toNat + 1 - (Digits.ofNat d.coefficient).length = 0 := by omega
  cases hds : Digits.ofNat d.coefficient with
  | nil => exact absurd hds (Digits.ofNat_ne_nil _)
  | cons c cs =>
    rw [hds] at hpadding
    rw [places, hds, hpadding]
    rfl

theorem proper_positional (negative : Bool) {d : Decimal}
    (h : d.coefficient = 0 → d.exponent = 0) : (positional negative d).Proper where
  whole_ne := by
    have hplaces := lt_length_places d
    rw [positional_eq, ← length_pos_iff, length_take]
    omega
  leading hlead := by
    have hplaces := lt_length_places d
    have hlength : (places d).length = (-d.exponent).toNat + 1 - (Digits.ofNat d.coefficient).length
        + (Digits.ofNat d.coefficient).length + d.exponent.toNat := by
      simp only [places, length_append, length_replicate]
    have hdigits : 0 < (Digits.ofNat d.coefficient).length :=
      length_pos_iff.mpr (Digits.ofNat_ne_nil _)
    rw [positional_eq, length_take]
    by_cases hpoint : (-d.exponent).toNat < (Digits.ofNat d.coefficient).length
    · by_cases hzero : d.coefficient = 0
      · have hone : (Digits.ofNat d.coefficient).length = 1 := by
          rw [hzero, Digits.ofNat]
          rfl
        have hexponent := h hzero
        omega
      · rw [positional_eq, head?_take, if_neg (by omega), head_places hpoint] at hlead
        exact absurd hlead (Digits.head_ofNat_ne_zero hzero)
    · omega

end Numeral

namespace Number

theorem exponent_shortest_of_zero (tie : Tie) {x : Number}
    (h : (x.shortest tie).coefficient = 0) : (x.shortest tie).exponent = 0 := by
  cases hzero : x.isZero with
  | true => rw [shortest, if_pos hzero]
  | false => exact absurd h (coefficient_shortest_ne_zero tie hzero)

theorem proper_numeral (x : Number) : x.numeral.Proper := by
  rw [numeral]
  split
  · exact (Numeral.proper_positional _ (exponent_shortest_of_zero .even)).pointed
  · exact Numeral.proper_scientific _ _

theorem toBinary64_numeral (x : Number) : x.numeral.toBinary64 = .finite x := by
  have hread := shortest_readsBack .even x
  rw [numeral]
  split
  · rename_i h
    have hexponent : (x.shortest .even).exponent ≤ 400 := by
      have hlength : 0 < (Digits.ofNat (x.shortest .even).coefficient).length :=
        List.length_pos_iff.mpr (Digits.ofNat_ne_nil _)
      rw [Numeral.leading] at h
      omega
    rw [Numeral.toBinary64_pointed rfl, Numeral.toBinary64_positional x.negative hexponent, hread]
  · rw [Numeral.toBinary64, Numeral.decimal_scientific]
    exact hread

end Number

theorem NumberReader.restores_nearest (x : Number) : nearest.Restores x :=
  congrArg some x.toBinary64_numeral

end PlanComparison
