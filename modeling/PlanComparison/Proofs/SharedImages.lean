import PlanComparison.Proofs.AllocationTrace

namespace PlanComparison

open Renaming

namespace Expression

theorem mem_vars_standardize_iff {c : Context} (hc : c.Numbered) (x : Expression)
    (image : String) : image ∈ (result x.standardize c).vars ↔
      ∃ name ∈ x.vars, (final x.standardize c).images.get? name = some image := by
  have hsome : image ∈ (result x.standardize c).vars ↔
      some image ∈ (result x.standardize c).vars.map some := by simp
  rw [hsome, ← x.map_get?_vars hc, List.mem_map]

theorem keys_final_of_initial {c : Context} (hc : c.Initial) (x : Expression) :
    (final x.standardize c).images.keys = x.vars := by
  obtain ⟨s, -, rfl⟩ := hc.exists_eq
  rw [keys_final_standardize]
  exact List.filter_eq_self.mpr fun _ _ => rfl

theorem get?_final_of_initial {c : Context} (hc : c.Initial) {x : Expression}
    (hbound : c.scheme.firstIndex.toNat + x.vars.length < UInt64.size) {i : Nat} {name : String}
    (h : x.vars[i]? = some name) :
    (final x.standardize c).images.get? name =
      some (c.scheme.freshName name (c.scheme.firstIndex.toNat + i)) := by
  have hgrows := x.standardize_grows c
  have hscheme := hgrows.scheme_eq
  have hi : i < x.vars.length := (List.getElem?_eq_some_iff.mp h).1
  rw [← keys_final_of_initial hc, OrderedMap.keys, List.getElem?_map] at h
  obtain ⟨⟨_, image⟩, hentry, rfl⟩ := Option.map_eq_some_iff.mp h
  have himage := (hgrows.numbered hc.numbered).image i _ _ hentry
  rw [Context.toNat_index _ i (by rw [hscheme]; omega), hscheme] at himage
  rw [OrderedMap.get?_eq_some_iff, ← himage]
  exact List.mem_of_getElem? hentry

theorem mem_vars_standardize_iff_of_initial {c : Context} (hc : c.Initial) {x : Expression}
    (hbound : c.scheme.firstIndex.toNat + x.vars.length < UInt64.size) (image : String) :
    image ∈ (result x.standardize c).vars ↔ ∃ name i, x.vars[i]? = some name ∧
      image = c.scheme.freshName name (c.scheme.firstIndex.toNat + i) := by
  rw [mem_vars_standardize_iff hc.numbered]
  constructor
  · rintro ⟨name, hname, himage⟩
    obtain ⟨i, hi⟩ := List.mem_iff_getElem?.mp hname
    rw [get?_final_of_initial hc hbound hi, Option.some.injEq] at himage
    exact ⟨name, i, hi, himage.symm⟩
  · rintro ⟨name, i, hi, rfl⟩
    exact ⟨name, List.mem_of_getElem? hi, get?_final_of_initial hc hbound hi⟩

section Apart

variable {A B : Context} (hA : A.Initial) (hB : B.Initial)
  (hseparator : A.scheme.separator = B.scheme.separator) {x y : Expression}
  (hx : A.scheme.firstIndex.toNat + x.vars.length < UInt64.size)
  (hy : B.scheme.firstIndex.toNat + y.vars.length < UInt64.size)

include hA hB hseparator hx hy

theorem mem_vars_both_iff (image : String) :
    image ∈ (result x.standardize A).vars ∧ image ∈ (result y.standardize B).vars ↔
      ∃ name i j, x.vars[i]? = some name ∧ y.vars[j]? = some name ∧
        A.scheme.firstIndex.toNat + i = B.scheme.firstIndex.toNat + j ∧
        image = A.scheme.freshName name (A.scheme.firstIndex.toNat + i) := by
  have hfresh (name : String) (n : Nat) : B.scheme.freshName name n = A.scheme.freshName name n := by
    rw [Scheme.freshName, ← hseparator, ← Scheme.freshName]
  rw [mem_vars_standardize_iff_of_initial hA hx, mem_vars_standardize_iff_of_initial hB hy]
  constructor
  · rintro ⟨⟨a, i, hi, rfl⟩, b, j, hj, hname⟩
    rw [hfresh] at hname
    obtain ⟨rfl, hindex⟩ := Scheme.freshName_inj hA.numbered.accepted hname
    exact ⟨a, i, j, hi, hj, hindex, rfl⟩
  · rintro ⟨name, i, j, hi, hj, hindex, rfl⟩
    refine ⟨⟨name, i, hi, rfl⟩, name, j, hj, ?_⟩
    rw [hfresh, hindex]

theorem disjoint_vars_iff :
    List.Disjoint (result x.standardize A).vars (result y.standardize B).vars ↔
      ∀ name i j, x.vars[i]? = some name → y.vars[j]? = some name →
        A.scheme.firstIndex.toNat + i ≠ B.scheme.firstIndex.toNat + j := by
  constructor
  · intro h name i j hi hj hindex
    have hboth := (mem_vars_both_iff hA hB hseparator hx hy _).mpr
      ⟨name, i, j, hi, hj, hindex, rfl⟩
    exact h hboth.1 hboth.2
  · intro h image himageA himageB
    obtain ⟨name, i, j, hi, hj, hindex, -⟩ :=
      (mem_vars_both_iff hA hB hseparator hx hy image).mp ⟨himageA, himageB⟩
    exact h name i j hi hj hindex

theorem disjoint_vars_of_ranges
    (hranges : List.Disjoint (List.range' A.scheme.firstIndex.toNat x.vars.length)
      (List.range' B.scheme.firstIndex.toNat y.vars.length)) :
    List.Disjoint (result x.standardize A).vars (result y.standardize B).vars := by
  apply (disjoint_vars_iff hA hB hseparator hx hy).mpr
  intro name i j hi hj hindex
  have hi := (List.getElem?_eq_some_iff.mp hi).1
  have hj := (List.getElem?_eq_some_iff.mp hj).1
  have hleft : A.scheme.firstIndex.toNat + i ∈
      List.range' A.scheme.firstIndex.toNat x.vars.length := by
    rw [List.mem_range'_1]
    omega
  have hright : A.scheme.firstIndex.toNat + i ∈
      List.range' B.scheme.firstIndex.toNat y.vars.length := by
    rw [List.mem_range'_1]
    omega
  exact hranges hleft hright

end Apart

theorem disjoint_vars_new_iff {x y : Expression} (hx : x.vars.length < UInt64.size)
    (hy : y.vars.length < UInt64.size) :
    List.Disjoint (result x.standardize .new).vars (result y.standardize .new).vars ↔
      ∀ (i : Nat) (name : String), x.vars[i]? = some name → y.vars[i]? ≠ some name := by
  -- Both contexts count from zero, so an index is a place in the list.
  have hzero : Context.new.scheme.firstIndex.toNat = 0 := rfl
  have hiff := disjoint_vars_iff .new .new rfl (x := x) (y := y) (by rw [hzero]; omega)
    (by rw [hzero]; omega)
  rw [hiff]
  constructor
  · intro h i name hi hj
    exact h name i i hi hj rfl
  · intro h name i j hi hj hindex
    rw [Nat.add_left_cancel hindex] at hi
    exact h j name hi hj

theorem shared_images_have_one_index (x y : Expression) :
    (∀ A B : Context, A.Initial → B.Initial → A.scheme.separator = B.scheme.separator →
      A.scheme.firstIndex.toNat + x.vars.length < UInt64.size →
      B.scheme.firstIndex.toNat + y.vars.length < UInt64.size →
      (∀ image : String,
        image ∈ (result x.standardize A).vars ∧ image ∈ (result y.standardize B).vars ↔
          ∃ name i j, x.vars[i]? = some name ∧ y.vars[j]? = some name ∧
            A.scheme.firstIndex.toNat + i = B.scheme.firstIndex.toNat + j ∧
            image = name ++ A.scheme.separator ++
              decimalText (A.scheme.firstIndex.toNat + i)) ∧
        (∀ name i, x.vars[i]? = some name → (final x.standardize A).images.get? name =
          some (name ++ A.scheme.separator ++ decimalText (A.scheme.firstIndex.toNat + i))) ∧
        (∀ name j, y.vars[j]? = some name → (final y.standardize B).images.get? name =
          some (name ++ B.scheme.separator ++ decimalText (B.scheme.firstIndex.toNat + j))) ∧
        (List.Disjoint (result x.standardize A).vars (result y.standardize B).vars ↔
          ∀ name i j, x.vars[i]? = some name → y.vars[j]? = some name →
            A.scheme.firstIndex.toNat + i ≠ B.scheme.firstIndex.toNat + j) ∧
        (List.Disjoint (List.range' A.scheme.firstIndex.toNat x.vars.length)
            (List.range' B.scheme.firstIndex.toNat y.vars.length) →
          List.Disjoint (result x.standardize A).vars (result y.standardize B).vars)) ∧
      (x.vars.length < UInt64.size → y.vars.length < UInt64.size →
        (List.Disjoint (result x.standardize .new).vars (result y.standardize .new).vars ↔
          ∀ (i : Nat) (name : String), x.vars[i]? = some name → y.vars[i]? ≠ some name)) := by
  refine ⟨?_, disjoint_vars_new_iff⟩
  intro A B hA hB hseparator hx hy
  refine ⟨mem_vars_both_iff hA hB hseparator hx hy, ?_, ?_,
    disjoint_vars_iff hA hB hseparator hx hy, disjoint_vars_of_ranges hA hB hseparator hx hy⟩
  · exact fun name i hi => get?_final_of_initial hA hx hi
  · exact fun name j hj => get?_final_of_initial hB hy hj

/-- `?b` has the index 8 in both contexts, though at different places. -/
theorem shared_images_have_one_index_tilde :
    let A : Context := ⟨⟨"~", 7⟩, 7, .empty⟩
    let B : Context := ⟨⟨"~", 8⟩, 8, .empty⟩
    let x : Expression := .comparison ⟨.less, .var "?a", .binary .add (.var "?b") (.var "?a")⟩
    let y : Expression := .equality ⟨.minus (.var "?b"), .var "?a"⟩
    A.Initial ∧ B.Initial ∧ A.scheme.separator = B.scheme.separator ∧
      x.vars = ["?a", "?b"] ∧ y.vars = ["?b", "?a"] ∧
      7 + x.vars.length < UInt64.size ∧ 8 + y.vars.length < UInt64.size ∧
      "?b~8" ∈ (result x.standardize A).vars ∧ "?b~8" ∈ (result y.standardize B).vars ∧
      ¬List.Disjoint (result x.standardize A).vars (result y.standardize B).vars ∧
      (final y.standardize B).images.get? "?a" = some "?a~9" ∧
      List.Disjoint (result x.standardize .new).vars (result y.standardize .new).vars := by
  intro A B x y
  have hA : A.Initial := .withScheme (s := ⟨"~", 7⟩) rfl
  have hB : B.Initial := .withScheme (s := ⟨"~", 8⟩) rfl
  have hx : 7 + x.vars.length < UInt64.size := by decide +kernel
  have hy : 8 + y.vars.length < UInt64.size := by decide +kernel
  have hxvars : x.vars = ["?a", "?b"] := by decide +kernel
  have hyvars : y.vars = ["?b", "?a"] := by decide +kernel
  obtain ⟨hapart, hnew⟩ := shared_images_have_one_index x y
  obtain ⟨hboth, -, himage, hdisjoint, -⟩ := hapart A B hA hB rfl hx hy
  have hfirst : x.vars[1]? = some "?b" := by rw [hxvars]; rfl
  have hsecond : y.vars[0]? = some "?b" := by rw [hyvars]; rfl
  have hthird : y.vars[1]? = some "?a" := by rw [hyvars]; rfl
  have htext : "?b~8" = "?b" ++ "~" ++ decimalText (7 + 1) := by decide +kernel
  have hnine : "?a" ++ "~" ++ decimalText (8 + 1) = "?a~9" := by decide +kernel
  have hshared := (hboth "?b~8").mpr ⟨"?b", 1, 0, hfirst, hsecond, rfl, htext⟩
  have hplaces : ∀ (i : Nat) (name : String), x.vars[i]? = some name → y.vars[i]? ≠ some name := by
    rw [hxvars, hyvars]
    intro i name hi
    match i with
    | 0 => cases hi; decide
    | 1 => cases hi; decide
    | i + 2 => cases hi
  refine ⟨hA, hB, rfl, hxvars, hyvars, hx, hy, hshared.1, hshared.2, ?_, ?_,
    (hnew (by omega) (by omega)).mpr hplaces⟩
  · intro h
    exact hdisjoint.mp h "?b" 1 0 hfirst hsecond rfl
  · exact (himage "?a" 1 hthird).trans (congrArg some hnine)

end Expression

end PlanComparison
