import PlanComparison.Json.Scheme
import PlanComparison.Proofs.FreshName
import PlanComparison.Proofs.JsonRoundTrip
import PlanComparison.Proofs.ReadNesting

/-!
Whatever text a value was read from, the text that is written for it stays within the limit of
open brackets and is read back as the same value. Only the numbers of the value are assumed to be
read back as they are written; how those of the first text were spelled and rounded is left open.
-/

namespace PlanComparison

open Read

namespace Json

theorem proper_natural (n : Nat) : (⟨false, Digits.ofNat n, [], none⟩ : Numeral).Proper where
  whole_ne := Digits.ofNat_ne_nil n
  leading hlead := by
    by_cases hn : n = 0
    · subst hn
      rw [Digits.ofNat]
      rfl
    · exact absurd hlead (Digits.head_ofNat_ne_zero hn)

theorem readIndex_natural (n : UInt64) : readIndex (.natural n.toNat) = .ok n := by
  have hn : n.toNat < UInt64.size := n.toNat_lt
  have hvalue : (natural n.toNat).natural? = some n.toNat :=
    congrArg some (Digits.value_ofNat n.toNat)
  rw [readIndex, hvalue]
  change (if n.toNat < UInt64.size then return UInt64.ofNat n.toNat else malformed) = _
  rw [if_pos hn, UInt64.ofNat_toNat]
  rfl

end Json

namespace Scheme

open Brackets (peak)

theorem written_toJson (s : Scheme) : s.toJson.Written := by
  apply Json.Written.record
  rw [List.forall_mem_cons, List.forall_mem_singleton]
  exact ⟨.text s.separator, .number (Json.proper_natural _)⟩

theorem count_render_toJson (s : Scheme) : Brackets.count s.toJson.render = 1 := by
  have hopen (cs : List Char) : peak .outside 0 ('{' :: cs) = peak .outside 1 cs := rfl
  have hcolon (cs : List Char) : peak .outside 1 (':' :: cs) = peak .outside 1 cs := rfl
  have hcomma (cs : List Char) : peak .outside 1 (',' :: cs) = peak .outside 1 cs := rfl
  have hclose : peak .outside 1 ['}'] = 1 := rfl
  rw [Brackets.count, Json.render, String.toList_ofList]
  simp only [toJson, Json.record, Json.text, Json.natural, List.map_cons, List.map_nil, Json.chars,
    Json.memberChars, Json.stringChars, List.cons_append, List.nil_append, List.append_assoc, hopen,
    hcolon, hcomma, hclose, Brackets.peak_write, Brackets.peak_plain _ (Brackets.plain_numeral _)]

theorem ofJson_toJson (s : Scheme) : ofJson s.toJson = .ok s := by
  have hseparator : Json.readString (.text s.separator) = .ok s.separator := rfl
  have hindex := Json.readIndex_natural s.firstIndex
  simp [ofJson, toJson, Json.record, Json.recordMembers, once, hseparator, hindex, bind,
    Except.bind, pure, Except.pure]

theorem read_render (s : Scheme) : read s.toJson.render = accept s.check := by
  rw [read, s.written_toJson.readText_render, ofJson_toJson]
  rfl

theorem yields_read (text : String) : Yields (read text) fun s => s.check = .ok s := by
  rw [read]
  refine (yields_true _).bind fun r _ => yields_accept fun s hs => ?_
  obtain ⟨rfl, -⟩ := (check_eq_ok_iff r s).mp hs
  exact hs

end Scheme

namespace Json

theorem what_is_read_rereads (reader : NumberReader) :
    (∀ text t, Term.read reader text = .ok t → Brackets.count t.toJson.render ≤ 127 ∧
        (reader.RestoresAll t.numbers → Term.read reader t.toJson.render = .ok t)) ∧
      (∀ text c, Comparison.read reader text = .ok c → Brackets.count c.toJson.render ≤ 127 ∧
        (reader.RestoresAll c.numbers → Comparison.read reader c.toJson.render = .ok c)) ∧
      (∀ text e, Equality.read reader text = .ok e → Brackets.count e.toJson.render ≤ 127 ∧
        (reader.RestoresAll e.numbers → Equality.read reader e.toJson.render = .ok e)) ∧
      (∀ text s, Substitution.read reader text = .ok s → Brackets.count s.toJson.render ≤ 127 ∧
        (reader.RestoresAll s.numbers → Substitution.read reader s.toJson.render = .ok s)) ∧
      ∀ text s, Scheme.read text = .ok s → Brackets.count s.toJson.render ≤ 127 ∧
        Scheme.read s.toJson.render = .ok s := by
  refine ⟨?_, ?_, ?_, ?_, ?_⟩
  · intro text t ht
    have hnesting := yields_readText (Term.yields_ofJson Term.bracketLimit) text t ht
    exact ⟨t.count_render.trans_le hnesting,
      fun h => (Term.roundTrips h).read_eq t.count_render hnesting⟩
  · intro text c hc
    have hnesting := yields_readText Comparison.yields_ofJson text c hc
    exact ⟨c.count_render.trans_le hnesting,
      fun h => (Comparison.roundTrips h).read_eq c.count_render hnesting⟩
  · intro text e he
    have hnesting := yields_readText Equality.yields_ofJson text e he
    exact ⟨e.count_render.trans_le hnesting,
      fun h => (Equality.roundTrips h).read_eq e.count_render hnesting⟩
  · intro text s hs
    have hnesting := yields_readText Substitution.yields_ofJson text s hs
    exact ⟨s.count_render.trans_le hnesting,
      fun h => (Substitution.roundTrips h).read_eq s.count_render hnesting⟩
  · intro text s hs
    have haccepted : s.check = .ok s := Scheme.yields_read text s hs
    refine ⟨?_, ?_⟩
    · rw [s.count_render_toJson]
      decide
    · rw [s.read_render, haccepted]
      rfl

/-- Fields out of order, fields that are none, arrays for objects, a name bound twice, and numbers
spelled in other ways than they are written. -/
theorem what_is_read_rereads_array :
    let reader := NumberReader.scaling
    let termText := "[\"ArithmeticFunction\", \"Minus\", [[\"Number\", 100.0E-3]]]"
    let comparisonText := "\x7b\"note\": [[1e9]], \"arg2\": [\"Number\", -0], " ++
      "\"op\": \"Less\", \"arg1\": \x7b\"name\": \"?x\", \"type\": \"Variable\"\x7d\x7d"
    let equalityText := "[\"Equal\", [\"Constant\", \"\\u0061\"], [\"Variable\", \"?x\"]]"
    let bindingsText := "[\x7b\"?x\": [\"Number\", 1], \"?y\": [\"Constant\", \"a\"], " ++
      "\"?x\": [\"Number\", 0e7]\x7d]"
    let schemeText := "\x7b\"first_index\": 18446744073709551615\x7d"
    let t : Term := .minus (.num ⟨false, 4591870180066957722, by decide⟩)
    let c : Comparison := ⟨.less, .var "?x", .num ⟨true, 0, by decide⟩⟩
    let e : Equality := ⟨.const "a", .var "?x"⟩
    let s : Substitution := .ofList [("?x", .num ⟨false, 0, by decide⟩), ("?y", .const "a")]
    let r : Scheme := ⟨"_", 18446744073709551615⟩
    Term.read reader termText = .ok t ∧ reader.RestoresAll t.numbers ∧
      Term.read reader t.toJson.render = .ok t ∧
      Comparison.read reader comparisonText = .ok c ∧ reader.RestoresAll c.numbers ∧
      Comparison.read reader c.toJson.render = .ok c ∧
      Equality.read reader equalityText = .ok e ∧ reader.RestoresAll e.numbers ∧
      Equality.read reader e.toJson.render = .ok e ∧
      Substitution.read reader bindingsText = .ok s ∧ reader.RestoresAll s.numbers ∧
      Substitution.read reader s.toJson.render = .ok s ∧
      Scheme.read schemeText = .ok r ∧ Scheme.read r.toJson.render = .ok r := by
  intro reader termText comparisonText equalityText bindingsText schemeText t c e s r
  obtain ⟨hterm, hcomparison, hequality, hbindings, hscheme⟩ := what_is_read_rereads reader
  have ht : Term.read reader termText = .ok t := by decide +kernel
  have hc : Comparison.read reader comparisonText = .ok c := by decide +kernel
  have he : Equality.read reader equalityText = .ok e := by decide +kernel
  have hs : Substitution.read reader bindingsText = .ok s := by decide +kernel
  have hr : Scheme.read schemeText = .ok r := by decide +kernel
  have htenth : reader.RestoresAll t.numbers := by decide +kernel
  have hnegative : reader.RestoresAll c.numbers := by decide +kernel
  have hnone : reader.RestoresAll e.numbers := by decide +kernel
  have hzero : reader.RestoresAll s.numbers := by decide +kernel
  exact ⟨ht, htenth, (hterm _ t ht).2 htenth, hc, hnegative, (hcomparison _ c hc).2 hnegative, he,
    hnone, (hequality _ e he).2 hnone, hs, hzero, (hbindings _ s hs).2 hzero, hr,
    (hscheme _ r hr).2⟩

end Json

end PlanComparison
