import Mathlib.Data.List.DropRight
import Mathlib.Tactic.Common
import PlanComparison.Renaming.Scheme

/-!
Fresh names read backwards: the index is the run of digits at the end, since the separator before
it ends in no digit. So a fresh name tells which name it replaces and with which index.
-/

namespace PlanComparison

section Ending

variable {p : Char → Bool} {cs ds : List Char} (hds : ∀ c ∈ ds, p c = true)
  (hcs : ∀ h : cs ≠ [], ¬p (cs.getLast h) = true)

include hds hcs

theorem rtakeWhile_append : (cs ++ ds).rtakeWhile p = ds := by
  induction ds using List.reverseRecOn with
  | nil =>
    rw [List.append_nil]
    exact List.rtakeWhile_eq_nil_iff.mpr hcs
  | append_singleton ds d ih =>
    have hinit := ih fun c hc => hds c (List.mem_append_left _ hc)
    have hlast := hds d (List.mem_append_right _ List.mem_cons_self)
    rw [← List.append_assoc, List.rtakeWhile_concat_pos _ _ _ hlast, hinit]

theorem rdropWhile_append : (cs ++ ds).rdropWhile p = cs := by
  have hsplit := List.rdropWhile_append_rtakeWhile (p := p) (l := cs ++ ds)
  rw [rtakeWhile_append hds hcs] at hsplit
  exact List.append_cancel_right hsplit

end Ending

theorem Digit.isSome_ofChar? (c : Char) : (ofChar? c).isSome = c.isDigit := by
  have hrange : c.isDigit = true ↔ 48 ≤ c.toNat ∧ c.toNat < 58 := by
    rw [Char.isDigit, Bool.and_eq_true, decide_eq_true_eq, decide_eq_true_eq]
    exact and_congr Iff.rfl Nat.lt_succ_iff.symm
  unfold ofChar?
  split_ifs with h
  · exact (hrange.mpr h).symm
  · exact (Bool.eq_false_iff.mpr fun hc => h (hrange.mp hc)).symm

theorem Digits.toList_decimalText (n : Nat) : (decimalText n).toList = (ofNat n).map Digit.char := by
  rw [decimalText, text, String.toList_ofList]

theorem Digits.isDigit_of_mem_decimalText {n : Nat} {c : Char}
    (hc : c ∈ (decimalText n).toList) : c.isDigit = true := by
  rw [toList_decimalText] at hc
  obtain ⟨d, -, rfl⟩ := List.mem_map.mp hc
  rw [← Digit.isSome_ofChar?, Digit.ofChar?_char]
  rfl

theorem Digits.value_decimalText (n : Nat) :
    value ((decimalText n).toList.filterMap Digit.ofChar?) = n := by
  have hdigit : Digit.ofChar? ∘ Digit.char = some := funext Digit.ofChar?_char
  rw [toList_decimalText, List.filterMap_map, hdigit, List.filterMap_some, value_ofNat]

namespace Scheme

structure Accepted (s : Scheme) : Prop where
  separator_ne : s.separator ≠ ""
  no_digit : ∀ c ∈ s.separator.toList, Digit.ofChar? c = none

theorem accepted_default : Accepted {} where
  separator_ne := by decide
  no_digit := by
    intro c hc
    have hline : c = '_' := List.mem_singleton.mp hc
    subst hline
    decide

theorem accepted_iff (s : Scheme) :
    s.Accepted ↔ s.separator ≠ "" ∧ ∀ c ∈ s.separator.toList, c.isDigit = false := by
  have hdigit (c : Char) : c.isDigit = false ↔ Digit.ofChar? c = none := by
    rw [← Digit.isSome_ofChar?, Option.isSome_eq_false_iff, Option.isNone_iff_eq_none]
  simp only [hdigit]
  exact ⟨fun h => ⟨h.separator_ne, h.no_digit⟩, fun h => ⟨h.1, h.2⟩⟩

theorem check_eq_ok_iff (s r : Scheme) : s.check = .ok r ↔ r = s ∧ s.Accepted := by
  unfold check
  split_ifs with hempty hdigit
  · constructor
    · intro h
      cases h
    · rintro ⟨-, h⟩
      exact absurd (String.isEmpty_iff.mp hempty) h.separator_ne
  · constructor
    · intro h
      cases h
    · rintro ⟨-, h⟩
      obtain ⟨c, hc, hd⟩ := List.any_eq_true.mp hdigit
      rw [h.no_digit c hc] at hd
      cases hd
  · constructor
    · intro h
      cases h
      refine ⟨rfl, fun h => hempty (String.isEmpty_iff.mpr h), ?_⟩
      intro c hc
      by_contra hd
      exact hdigit (List.any_eq_true.mpr ⟨c, hc, Option.isSome_iff_ne_none.mpr hd⟩)
    · rintro ⟨rfl, -⟩
      rfl

theorem toList_freshName (s : Scheme) (name : String) (index : Nat) :
    (s.freshName name index).toList =
      name.toList ++ s.separator.toList ++ (decimalText index).toList := by
  rw [freshName, String.toList_append, String.toList_append]

def decode? (s : Scheme) (fresh : String) : Option (String × Nat) :=
  let index := Digits.value ((fresh.toList.rtakeWhile Char.isDigit).filterMap Digit.ofChar?)
  let before := fresh.toList.rdropWhile Char.isDigit
  let name := String.ofList (before.rdrop s.separator.toList.length)
  if s.freshName name index = fresh then some (name, index) else none

section Accepted

variable {s : Scheme} (h : s.Accepted) (name : String) (index : Nat)

include h

theorem Accepted.not_isDigit_getLast (hne : name.toList ++ s.separator.toList ≠ []) :
    ¬((name.toList ++ s.separator.toList).getLast hne).isDigit = true := by
  obtain ⟨hseparator, hdigit⟩ := s.accepted_iff.mp h
  have hlist : s.separator.toList ≠ [] := fun hnil => hseparator (String.toList_eq_nil_iff.mp hnil)
  rw [List.getLast_append_of_ne_nil _ hlist, hdigit _ (List.getLast_mem hlist)]
  exact Bool.false_ne_true

theorem rtakeWhile_freshName :
    (s.freshName name index).toList.rtakeWhile Char.isDigit = (decimalText index).toList := by
  rw [toList_freshName]
  exact rtakeWhile_append (fun _ => Digits.isDigit_of_mem_decimalText) (h.not_isDigit_getLast name)

theorem rdropWhile_freshName : (s.freshName name index).toList.rdropWhile Char.isDigit =
    name.toList ++ s.separator.toList := by
  rw [toList_freshName]
  exact rdropWhile_append (fun _ => Digits.isDigit_of_mem_decimalText) (h.not_isDigit_getLast name)

theorem decode?_freshName : s.decode? (s.freshName name index) = some (name, index) := by
  have hname : String.ofList ((name.toList ++ s.separator.toList).rdrop
      s.separator.toList.length) = name := by
    rw [List.rdrop, List.length_append, Nat.add_sub_cancel, List.take_left, String.ofList_toList]
  rw [decode?, rtakeWhile_freshName h, rdropWhile_freshName h, Digits.value_decimalText, hname,
    if_pos rfl]

theorem decode?_eq_some_iff (fresh : String) :
    s.decode? fresh = some (name, index) ↔ fresh = s.freshName name index := by
  constructor
  · intro hdecode
    rw [decode?] at hdecode
    split_ifs at hdecode with hfresh
    cases hdecode
    exact hfresh.symm
  · rintro rfl
    exact decode?_freshName h name index

end Accepted

theorem freshName_inj {s : Scheme} (h : s.Accepted) {a b : String} {i j : Nat}
    (he : s.freshName a i = s.freshName b j) : a = b ∧ i = j := by
  have hdecode := decode?_freshName h a i
  rw [he, decode?_freshName h b j] at hdecode
  cases hdecode
  exact ⟨rfl, rfl⟩

theorem fresh_names_decode_uniquely {s r : Scheme} (h : s.check = .ok r) :
    (∀ (a b : String) (i j : Nat), s.freshName a i = s.freshName b j → a = b ∧ i = j) ∧
      (∀ (a : String) (i : Nat),
        (s.freshName a i).toList.rtakeWhile Char.isDigit = (decimalText i).toList ∧
          (s.freshName a i).toList.rdropWhile Char.isDigit = a.toList ++ s.separator.toList) ∧
      ∀ (a : String) (i : Nat) (name : String),
        s.decode? name = some (a, i) ↔ name = s.freshName a i := by
  obtain ⟨-, hs⟩ := (check_eq_ok_iff s r).mp h
  refine ⟨fun a b i j => freshName_inj hs, ?_, fun a i => decode?_eq_some_iff hs a i⟩
  intro a i
  exact ⟨rtakeWhile_freshName hs a i, rdropWhile_freshName hs a i⟩

/-- The name that is replaced looks like a fresh name itself, and the separator ends in a digit that
is not one of the ten. -/
theorem fresh_names_decode_uniquely_digits :
    let s : Scheme := ⟨"_٣", 0⟩
    s.check = .ok s ∧ s.freshName "?x_٣1" 20 = "?x_٣1_٣20" ∧
      "?x_٣1_٣20".toList.rtakeWhile Char.isDigit = "20".toList ∧
      "?x_٣1_٣20".toList.rdropWhile Char.isDigit = "?x_٣1_٣".toList ∧
      s.decode? "?x_٣1_٣20" = some ("?x_٣1", 20) ∧ s.decode? "?x_٣07" = none ∧
      s.freshName "?x" 1 ≠ s.freshName "?x_٣1" 20 := by
  intro s
  have hs : s.check = .ok s := by decide +kernel
  have hfresh : s.freshName "?x_٣1" 20 = "?x_٣1_٣20" := by decide +kernel
  have hindex : (decimalText 20).toList = "20".toList := by decide +kernel
  have hbefore : "?x_٣1".toList ++ s.separator.toList = "?x_٣1_٣".toList := by decide +kernel
  obtain ⟨hinj, hends, hdecode⟩ := fresh_names_decode_uniquely hs
  obtain ⟨hdigits, hrest⟩ := hends "?x_٣1" 20
  rw [hfresh, hindex] at hdigits
  rw [hfresh, hbefore] at hrest
  have hzero : s.decode? "?x_٣07" = none := by decide +kernel
  refine ⟨hs, hfresh, hdigits, hrest, (hdecode _ _ _).mpr hfresh.symm, hzero, ?_⟩
  intro heq
  cases (hinj _ _ _ _ heq).2

end Scheme

end PlanComparison
