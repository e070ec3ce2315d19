import Mathlib.Tactic.Common
import PlanComparison.Json.NumeralLiteral

namespace PlanComparison

theorem Digit.char_ne {d : Digit} {c : Char} (hc : Digit.ofChar? c = none) : d.char ≠ c := by
  intro h
  rw [← h, Digit.ofChar?_char] at hc
  cases hc

theorem Digits.ofNat_ne_nil (n : Nat) : ofNat n ≠ [] := by
  rw [ofNat]
  split <;> simp

theorem Digits.toList_text (ds : List Digit) : (text ds).toList = ds.map Digit.char :=
  String.toList_ofList

namespace Numeral

/-- As in JSON: there are digits before the point, and a zero does not come before others. -/
structure Proper (x : Numeral) : Prop where
  whole_ne : x.whole ≠ []
  leading : x.whole.head? = some Digit.zero → x.whole.length = 1

def Ends (rest : List Char) : Prop :=
  ∀ c ∈ rest.head?, Digit.ofChar? c = none ∧ c ≠ '.' ∧ c ≠ 'e' ∧ c ≠ 'E'

def signChars (negative : Bool) : List Char := if negative then ['-'] else []

def fractionChars (ds : List Digit) : List Char :=
  if ds.isEmpty then [] else '.' :: ds.map Digit.char

def exponentChars : Option Int → List Char
  | none => []
  | some e => 'e' :: (if e < 0 then '-' else '+') :: (Digits.ofNat e.natAbs).map Digit.char

theorem toList_text (x : Numeral) :
    x.text.toList = signChars x.negative ++ (x.whole.map Digit.char ++
      (fractionChars x.fraction ++ exponentChars x.exponent)) := by
  obtain ⟨negative, whole, fraction, exponent⟩ := x
  have hsign : (if negative then "-" else "").toList = signChars negative := by
    cases negative <;> rfl
  have hfraction : (if fraction.isEmpty then "" else "." ++ Digits.text fraction).toList =
      fractionChars fraction := by
    cases fraction with
    | nil => rfl
    | cons d ds =>
      change ("." ++ Digits.text (d :: ds)).toList = _
      rw [String.toList_append, Digits.toList_text]
      rfl
  have hexponent : ((exponent.map exponentText).getD "").toList = exponentChars exponent := by
    cases exponent with
    | none => rfl
    | some e =>
      change (exponentText e).toList = _
      rw [exponentText, exponentChars, decimalText, String.toList_append, Digits.toList_text]
      split <;> rfl
  simp only [text, String.toList_append, hsign, hfraction, hexponent, Digits.toList_text,
    List.append_assoc]

theorem forall_mem_text {P : Char → Prop} (hdigit : ∀ d : Digit, P d.char)
    (hmark : ∀ c ∈ ['-', '.', 'e', '+'], P c) (x : Numeral) : ∀ c ∈ x.text.toList, P c := by
  have hdigits (ds : List Digit) : ∀ c ∈ ds.map Digit.char, P c :=
    List.forall_mem_map.mpr fun d _ => hdigit d
  have hsign : ∀ c ∈ signChars x.negative, P c := by
    cases x.negative with
    | true => exact List.forall_mem_singleton.mpr (hmark '-' (by decide))
    | false => exact List.forall_mem_nil _
  have hfraction : ∀ c ∈ fractionChars x.fraction, P c := by
    cases x.fraction with
    | nil => exact List.forall_mem_nil _
    | cons d ds => exact List.forall_mem_cons.mpr ⟨hmark '.' (by decide), hdigits (d :: ds)⟩
  have hexponent : ∀ c ∈ exponentChars x.exponent, P c := by
    cases x.exponent with
    | none => exact List.forall_mem_nil _
    | some e =>
      rw [exponentChars, List.forall_mem_cons, List.forall_mem_cons]
      refine ⟨hmark 'e' (by decide), ?_, hdigits _⟩
      split
      · exact hmark '-' (by decide)
      · exact hmark '+' (by decide)
  rw [toList_text, List.forall_mem_append, List.forall_mem_append, List.forall_mem_append]
  exact ⟨hsign, hdigits _, hfraction, hexponent⟩

theorem Proper.exists_cons_text {x : Numeral} (hx : x.Proper) :
    ∃ c cs, x.text.toList = c :: cs ∧ (c = '-' ∨ ∃ d : Digit, c = d.char) := by
  rw [toList_text]
  cases hwhole : x.whole with
  | nil => exact absurd hwhole hx.whole_ne
  | cons d ds =>
    cases x.negative with
    | true => exact ⟨_, _, rfl, .inl rfl⟩
    | false => exact ⟨_, _, rfl, .inr ⟨d, rfl⟩⟩

theorem readDigits_append {ds : List Digit} {rest : List Char} (hds : ds ≠ [])
    (hrest : ∀ c ∈ rest.head?, Digit.ofChar? c = none) :
    readDigits (ds.map Digit.char ++ rest) = some (ds, rest) := by
  rw [readDigits, Digits.span_append ds rest hrest]
  cases ds with
  | nil => exact absurd rfl hds
  | cons d ds => rfl

theorem readSign_append (negative : Bool) (d : Digit) (cs : List Char) :
    readSign (signChars negative ++ d.char :: cs) = (negative, d.char :: cs) := by
  cases negative with
  | true => rfl
  | false =>
    have hd : d.char ≠ '-' := Digit.char_ne rfl
    change readSign (d.char :: cs) = _
    unfold readSign
    split
    · rename_i h
      exact absurd (List.cons.inj h).1 hd
    · rfl

theorem readWhole_append {x : Numeral} (hx : x.Proper) {rest : List Char}
    (hrest : ∀ c ∈ rest.head?, Digit.ofChar? c = none) :
    readWhole (x.whole.map Digit.char ++ rest) = some (x.whole, rest) := by
  have hcheck : (x.whole.head? == some Digit.zero && x.whole.length != 1) = false := by
    cases hlead : x.whole.head? == some Digit.zero with
    | false => rfl
    | true => simp [hx.leading (eq_of_beq hlead)]
  simp only [readWhole, readDigits_append hx.whole_ne hrest, bind, Option.bind_some, hcheck]
  rfl

theorem readFraction_append (ds : List Digit) {rest : List Char}
    (hrest : ∀ c ∈ rest.head?, Digit.ofChar? c = none ∧ c ≠ '.') :
    readFraction (fractionChars ds ++ rest) = some (ds, rest) := by
  cases ds with
  | nil =>
    change readFraction rest = _
    unfold readFraction
    split
    · exact absurd rfl (hrest '.' rfl).2
    · rfl
  | cons d ds => exact readDigits_append (List.cons_ne_nil d ds) fun c hc => (hrest c hc).1

theorem readExponent_append (e : Option Int) {rest : List Char} (hrest : Ends rest) :
    readExponent (exponentChars e ++ rest) = some (e, rest) := by
  cases e with
  | none =>
    cases rest with
    | nil => rfl
    | cons c cs =>
      obtain ⟨-, -, hlower, hupper⟩ := hrest c rfl
      exact if_neg (not_or.mpr ⟨hlower, hupper⟩)
  | some e =>
    have hdigits := readDigits_append (Digits.ofNat_ne_nil e.natAbs)
      fun c hc => (hrest c hc).1
    by_cases he : e < 0
    · have habs : -((e.natAbs : Nat) : Int) = e := by omega
      simp only [exponentChars, if_pos he, List.cons_append, readExponent, true_or, if_true,
        readExponentSign, hdigits, bind, Option.bind_some, pure, Digits.value_ofNat, habs]
    · have habs : ((e.natAbs : Nat) : Int) = e := by omega
      simp only [exponentChars, if_neg he, List.cons_append, readExponent, true_or, if_true,
        readExponentSign, hdigits, bind, Option.bind_some, pure, Digits.value_ofNat, habs,
        Bool.false_eq_true, if_false]

theorem read_text {x : Numeral} (hx : x.Proper) {rest : List Char} (hrest : Ends rest) :
    read (x.text.toList ++ rest) = some (x, rest) := by
  obtain ⟨negative, whole, fraction, exponent⟩ := x
  have hexponent := readExponent_append exponent hrest
  have hpoint : ∀ c ∈ (exponentChars exponent ++ rest).head?,
      Digit.ofChar? c = none ∧ c ≠ '.' := by
    cases exponent with
    | none => exact fun c hc => ⟨(hrest c hc).1, (hrest c hc).2.1⟩
    | some e =>
      intro c hc
      cases hc
      decide
  have hfraction := readFraction_append fraction hpoint
  have hdigit : ∀ c ∈ (fractionChars fraction ++ (exponentChars exponent ++ rest)).head?,
      Digit.ofChar? c = none := by
    cases fraction with
    | nil => exact fun c hc => (hpoint c hc).1
    | cons d ds =>
      intro c hc
      cases hc
      decide
  have hwhole := readWhole_append hx hdigit
  cases whole with
  | nil => exact absurd rfl hx.whole_ne
  | cons d ds =>
    have hsign := readSign_append negative d (ds.map Digit.char ++
      (fractionChars fraction ++ (exponentChars exponent ++ rest)))
    simp only [List.map_cons, List.cons_append] at hwhole
    simp only [toList_text, read, List.map_cons, List.cons_append, List.append_assoc, hsign,
      hwhole, hfraction, hexponent, bind, Option.bind_some]
    rfl

theorem Proper.text_inj {x y : Numeral} (hx : x.Proper) (hy : y.Proper) (h : x.text = y.text) :
    x = y := by
  have hends : Ends [] := fun c hc => nomatch hc
  have hread := read_text hx hends
  rw [h, read_text hy hends] at hread
  exact (Prod.mk.inj (Option.some.inj hread)).1.symm

end Numeral

end PlanComparison
