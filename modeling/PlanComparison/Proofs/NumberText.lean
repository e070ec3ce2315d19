import PlanComparison.Proofs.WrittenNumber

namespace PlanComparison

namespace Number

theorem log2_magnitude_le (x : Number) : x.magnitude.log2 ≤ 2097 := by
  by_cases hzero : x.magnitude = 0
  · rw [hzero]
    decide
  have hscale : scale x.rank ≤ 2045 := by
    have hlt : x.rank / binade < 2047 := Nat.div_lt_of_lt_mul (Nat.mul_comm _ _ ▸ x.rank_lt)
    rw [scale]
    omega
  have hmagnitude : x.magnitude < 2 ^ (53 + scale x.rank) := by
    rw [Nat.pow_add]
    exact Nat.mul_lt_mul_of_pos_right x.significand_lt (Nat.two_pow_pos _)
  have hlog := (Nat.log2_lt hzero).mpr hmagnitude
  omega

theorem le_of_mem_grids {x : Number} {e : Int} (h : e ∈ x.grids) : e ≤ 400 := by
  have hlog := x.log2_magnitude_le
  obtain ⟨i, -, rfl⟩ := List.mem_map.mp h
  omega

theorem exponent_of_onGrid {tie : Tie} {x : Number} {e : Int} {d : Decimal}
    (h : x.onGrid tie e = some d) : d.exponent = e := by
  obtain ⟨c, -, rfl⟩ := List.mem_map.mp (List.mem_of_find?_eq_some h)
  rfl

theorem exponent_shortest_le (tie : Tie) (x : Number) : (x.shortest tie).exponent ≤ 400 := by
  have hexact : x.exact.exponent ≤ 400 := by
    change (-1074 : Int) ≤ 400
    decide
  rw [shortest]
  split
  · decide
  · cases hfind : x.grids.findSome? (x.onGrid tie) with
    | none => exact hexact
    | some d =>
      obtain ⟨e, he, hgrid⟩ := List.exists_of_findSome?_eq_some hfind
      rw [Option.getD_some, exponent_of_onGrid hgrid]
      exact le_of_mem_grids he

def printed (x : Number) : Numeral := .positional x.negative (x.shortest .up)

theorem proper_printed (x : Number) : x.printed.Proper :=
  Numeral.proper_positional _ (exponent_shortest_of_zero .up)

theorem toBinary64_printed (x : Number) : x.printed.toBinary64 = .finite x := by
  rw [printed, Numeral.toBinary64_positional x.negative (exponent_shortest_le .up x)]
  exact shortest_readsBack .up x

theorem text_inj {x y : Number} (h : x.text = y.text) : x = y := by
  have hprinted : x.printed = y.printed := x.proper_printed.text_inj y.proper_printed h
  have hvalue : Binary64.finite x = .finite y := by
    rw [← toBinary64_printed x, hprinted, toBinary64_printed]
  exact Binary64.finite.inj hvalue

end Number

end PlanComparison
