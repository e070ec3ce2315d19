import Mathlib.Logic.Function.Iterate
import PlanComparison.Proofs.BracketNesting

/-!
What is written in JSON is read back as the same value, bit for bit and in the same order, up to
the limit of open brackets. Past the limit it is refused. That numbers are read back as they were
written is assumed of the package that reads them, by the hypothesis `RestoresAll`.
-/

namespace PlanComparison

open Read

namespace Json

theorem readSole_record {α : Type} (field : String) (read : Json → Read α) (v : Json) :
    readSole field read (.record [(field, v)]) = read v := by
  cases hread : read v with
  | error e => simp [readSole, record, recordMembers, once, hread, bind, Except.bind]
  | ok a =>
    simp [readSole, record, recordMembers, once, ofOption, hread, bind, Except.bind, pure,
      Except.pure]

theorem readNumber_numeral {reader : NumberReader} {x : Number} (h : reader.Restores x) :
    readNumber reader (.number x.numeral) = .ok (.finite x) :=
  congrArg ofOption h

end Json

theorem Operator.ofJson_toJson (inside : Bool) (op : Operator) :
    ofJson inside op.toJson = .ok op := by
  cases op with
  | minus => rfl
  | binary op => cases op <;> rfl

theorem Comparator.ofJson_toJson (op : Comparator) : ofJson op.toJson = .ok op := by
  cases op <;> rfl

namespace Term

theorem untag_toJson (inside : Bool) (t : Term) :
    untag inside t.toJson = .ok (t.kind, .record t.fields) := by
  cases t <;> rfl

theorem readArithmetic_record (inside : Bool) (operand : Json → Read Term) (op : Operator)
    (items : List Json) :
    readArithmetic inside operand (.record [("op", op.toJson), ("args", .array items)]) =
      (do accept (arithmetic op (← items.mapM operand))) := by
  have hop := Operator.ofJson_toJson inside op
  cases hitems : items.mapM operand with
  | error e =>
    simp [readArithmetic, Json.record, Json.recordMembers, Json.readList, once, hop, hitems, bind,
      Except.bind, pure, Except.pure]
  | ok operands =>
    simp [readArithmetic, Json.record, Json.recordMembers, Json.readList, once, ofOption, hop,
      hitems, bind, Except.bind, pure, Except.pure]

theorem mapM_toJson {operand : Json → Read Term} {ts : List Term}
    (h : ∀ a ∈ ts, operand a.toJson = .ok a) : (ts.map toJson).mapM operand = .ok ts := by
  induction ts with
  | nil => rfl
  | cons a ts ih =>
    have htail := ih fun b hb => h b (List.mem_cons_of_mem a hb)
    rw [List.map_cons, List.mapM_cons, h a List.mem_cons_self, htail]
    rfl

theorem numbers_subset_of_mem_operands {a t : Term} (h : a ∈ t.operands) :
    a.numbers ⊆ t.numbers := by
  cases t <;> simp only [operands, List.mem_cons, List.not_mem_nil, or_false] at h
  case minus b =>
    subst h
    exact List.Subset.refl _
  case binary op b c =>
    rcases h with rfl | rfl
    · exact List.subset_append_left _ _
    · exact List.subset_append_right _ _

section Numbers

variable {reader : NumberReader}

theorem readFields_fields (inside : Bool) {operand : Json → Read Term} {t : Term}
    (hnumbers : reader.RestoresAll t.numbers) (h : ∀ a ∈ t.operands, operand a.toJson = .ok a) :
    readFields reader inside operand (.record t.fields) t.kind = .ok t := by
  cases t with
  | var name =>
    rw [kind, readFields, fields, Json.readSole_record]
    rfl
  | const name =>
    rw [kind, readFields, fields, Json.readSole_record]
    rfl
  | num x =>
    rw [kind, readFields, fields, Json.readSole_record,
      Json.readNumber_numeral (hnumbers x List.mem_cons_self)]
    rfl
  | minus a =>
    have hrecord := readArithmetic_record inside operand .minus ((minus a).operands.map toJson)
    rw [mapM_toJson h] at hrecord
    exact hrecord
  | binary op a b =>
    have hrecord := readArithmetic_record inside operand (.binary op)
      ((binary op a b).operands.map toJson)
    rw [mapM_toJson h] at hrecord
    exact hrecord

theorem nesting_pos (t : Term) : 0 < t.nesting := by
  cases t <;> simp [nesting]

theorem nesting_lt_of_mem_operands {a t : Term} (h : a ∈ t.operands) :
    a.nesting + 1 < t.nesting := by
  cases t <;> simp only [operands, List.mem_cons, List.not_mem_nil, or_false] at h
  case minus b =>
    subst h
    simp [nesting]
  case binary op b c =>
    rcases h with rfl | rfl <;> simp only [nesting] <;> omega

theorem readOperand_toJson {t : Term} {depth : Nat} (hnumbers : reader.RestoresAll t.numbers)
    (h : t.nesting ≤ depth) : readOperand reader depth t.toJson = .ok t := by
  induction depth generalizing t with
  | zero => exact absurd t.nesting_pos (by omega)
  | succ depth ih =>
    have hoperands : ∀ a ∈ t.operands, readOperand reader depth a.toJson = .ok a := by
      intro a ha
      have hlt := nesting_lt_of_mem_operands ha
      exact ih (fun x hx => hnumbers x (numbers_subset_of_mem_operands ha hx)) (by omega)
    rw [readOperand, untag_toJson]
    exact readFields_fields true hnumbers hoperands

theorem ofJson_toJson (depth : Nat) {t : Term} (hnumbers : reader.RestoresAll t.numbers) :
    ofJson reader depth t.toJson = if t.nesting ≤ depth then .ok t else .error .malformed := by
  rw [ofJson, (nests_toJson hnumbers).isSound_eq, untag_toJson]
  by_cases h : t.nesting ≤ depth
  · have hoperands : ∀ a ∈ t.operands, readOperand reader depth a.toJson = .ok a := by
      intro a ha
      have hlt := nesting_lt_of_mem_operands ha
      exact readOperand_toJson (fun x hx => hnumbers x (numbers_subset_of_mem_operands ha hx))
        (by omega)
    rw [if_pos h, if_pos (decide_eq_true h)]
    exact readFields_fields true hnumbers hoperands
  · rw [if_neg h, if_neg (by simpa using h)]
    rfl

end Numbers

end Term

section Numbers

variable {reader : NumberReader}

theorem Comparison.ofJson_record (op : Comparator) (left right : Json) :
    ofJson reader (.record [("op", op.toJson), ("arg1", left), ("arg2", right)]) = do
      let a ← Term.ofJson reader 126 left
      let b ← Term.ofJson reader 126 right
      return ⟨op, a, b⟩ := by
  have hop := op.ofJson_toJson
  cases hleft : Term.ofJson reader 126 left with
  | error e =>
    simp [ofJson, Json.record, Json.recordMembers, Term.bracketLimit, once, hop, hleft, bind,
      Except.bind, pure, Except.pure]
  | ok a =>
    cases hright : Term.ofJson reader 126 right with
    | error e =>
      simp [ofJson, Json.record, Json.recordMembers, Term.bracketLimit, once, hop, hleft, hright,
        bind, Except.bind, pure, Except.pure]
    | ok b =>
      simp [ofJson, Json.record, Json.recordMembers, Term.bracketLimit, once, ofOption, hop, hleft,
        hright, bind, Except.bind, pure, Except.pure]

theorem Comparison.ofJson_toJson {c : Comparison} (h : reader.RestoresAll c.numbers) :
    ofJson reader c.toJson = if c.nesting ≤ 127 then .ok c else .error .malformed := by
  have hnesting : c.nesting ≤ 127 ↔ c.left.nesting ≤ 126 ∧ c.right.nesting ≤ 126 := by
    rw [nesting]
    omega
  obtain ⟨hl, hr⟩ := List.forall_mem_append.mp h
  rw [toJson, ofJson_record, Term.ofJson_toJson 126 hl, Term.ofJson_toJson 126 hr]
  by_cases hleft : c.left.nesting ≤ 126
  · by_cases hright : c.right.nesting ≤ 126
    · rw [if_pos hleft, if_pos hright, if_pos (hnesting.mpr ⟨hleft, hright⟩)]
      rfl
    · rw [if_pos hleft, if_neg hright, if_neg fun h => hright (hnesting.mp h).2]
      rfl
  · rw [if_neg hleft, if_neg fun h => hleft (hnesting.mp h).1]
    rfl

theorem Equality.ofJson_toJson {e : Equality} (h : reader.RestoresAll e.numbers) :
    ofJson reader e.toJson = if e.nesting ≤ 127 then .ok e else .error .malformed := by
  rw [toJson, ofJson, Comparison.ofJson_toJson h, ← nesting]
  by_cases h : e.nesting ≤ 127
  · rw [if_pos h, if_pos h]
    rfl
  · rw [if_neg h, if_neg h]
    rfl

namespace Substitution

theorem readBinding_toJson (name : String) {t : Term} (h : reader.RestoresAll t.numbers) :
    readBinding reader (some name, t.toJson) =
      if t.nesting ≤ 125 then .ok (name, t) else .error .malformed := by
  change (do return (name, ← Term.ofJson reader 125 t.toJson)) = _
  rw [Term.ofJson_toJson 125 h]
  split <;> rfl

theorem mapM_readBinding {es : List (String × Term)}
    (h : reader.RestoresAll (es.flatMap fun e => e.2.numbers)) :
    (es.map fun e => (some e.1, e.2.toJson)).mapM (readBinding reader) =
      if (es.map fun e => e.2.nesting).foldr max 0 ≤ 125 then .ok es else .error .malformed := by
  induction es with
  | nil => rfl
  | cons e es ih =>
    rw [List.flatMap_cons] at h
    obtain ⟨hhead, htail⟩ := List.forall_mem_append.mp h
    rw [List.map_cons, List.mapM_cons, readBinding_toJson e.1 hhead, ih htail, List.map_cons,
      List.foldr_cons]
    by_cases he : e.2.nesting ≤ 125
    · by_cases hes : (es.map fun e => e.2.nesting).foldr max 0 ≤ 125
      · rw [if_pos he, if_pos hes, if_pos (Nat.max_le.mpr ⟨he, hes⟩)]
        rfl
      · rw [if_pos he, if_neg hes, if_neg fun h => hes (Nat.max_le.mp h).2]
        rfl
    · rw [if_neg he, if_neg fun h => he (Nat.max_le.mp h).1]
      rfl

theorem ofJson_listing {ps : List (String × Term)}
    (hnumbers : reader.RestoresAll (ps.flatMap fun e => e.2.numbers)) :
    ofJson reader (listing ps) =
      if (ps.map fun e => e.2.nesting).foldr max 0 + 2 ≤ 127 then .ok (.ofList ps)
      else .error .malformed := by
  rw [listing, ofJson, Json.readSole_record, Json.record, readBindings, List.map_map,
    Function.comp_def, mapM_readBinding hnumbers]
  by_cases h : (ps.map fun e => e.2.nesting).foldr max 0 ≤ 125
  · rw [if_pos h, if_pos (by omega)]
    rfl
  · rw [if_neg h, if_neg (by omega)]
    rfl

theorem ofJson_toJson {s : Substitution} (h : reader.RestoresAll s.numbers) :
    ofJson reader s.toJson = if s.nesting ≤ 127 then .ok s else .error .malformed := by
  have hs : OrderedMap.ofList s.entries = s :=
    OrderedMap.ext (OrderedMap.entries_ofList s.entries s.nodup)
  have hlisting := ofJson_listing h
  rw [hs] at hlisting
  exact hlisting

end Substitution

end Numbers

namespace Json

def RoundTrips {α : Type} (toJson : α → Json) (read : String → Read α) (x : α) : Prop :=
  read (toJson x).render =
    if Brackets.count (toJson x).render ≤ 127 then .ok x else .error .malformed

theorem Nests.roundTrips {α : Type} {reader : NumberReader} {toJson : α → Json}
    {ofJson : Json → Read α} {x : α} {n : Nat} (h : (toJson x).Nests reader n)
    (hread : ofJson (toJson x) = if n ≤ 127 then .ok x else .error .malformed) :
    RoundTrips toJson (readText ofJson) x := by
  rw [RoundTrips, h.written.readText_render, hread, h.count_render]

theorem RoundTrips.read_eq {α : Type} {toJson : α → Json} {read : String → Read α} {x : α} {n : Nat}
    (h : RoundTrips toJson read x) (hcount : Brackets.count (toJson x).render = n)
    (hn : n ≤ 127) : read (toJson x).render = .ok x := by
  rw [RoundTrips, hcount, if_pos hn] at h
  exact h

end Json

section Numbers

open Json

variable {reader : NumberReader}

theorem Term.roundTrips {t : Term} (h : reader.RestoresAll t.numbers) :
    RoundTrips toJson (read reader) t :=
  (nests_toJson h).roundTrips (ofJson_toJson bracketLimit h)

theorem Comparison.roundTrips {c : Comparison} (h : reader.RestoresAll c.numbers) :
    RoundTrips toJson (read reader) c :=
  (nests_toJson h).roundTrips (ofJson_toJson h)

theorem Equality.roundTrips {e : Equality} (h : reader.RestoresAll e.numbers) :
    RoundTrips toJson (read reader) e :=
  (nests_toJson h).roundTrips (ofJson_toJson h)

theorem Substitution.roundTrips {s : Substitution} (h : reader.RestoresAll s.numbers) :
    RoundTrips toJson (read reader) s :=
  (nests_toJson h).roundTrips (ofJson_toJson h)

end Numbers

namespace Json

theorem round_trip_within_limit (reader : NumberReader) :
    (∀ t : Term, Brackets.count t.toJson.render = t.nesting ∧
        (reader.RestoresAll t.numbers → RoundTrips Term.toJson (Term.read reader) t)) ∧
      (∀ c : Comparison, Brackets.count c.toJson.render = c.nesting ∧
        (reader.RestoresAll c.numbers →
          RoundTrips Comparison.toJson (Comparison.read reader) c)) ∧
      (∀ e : Equality, Brackets.count e.toJson.render = e.nesting ∧
        (reader.RestoresAll e.numbers → RoundTrips Equality.toJson (Equality.read reader) e)) ∧
      (∀ s : Substitution, Brackets.count s.toJson.render = s.nesting ∧
        (reader.RestoresAll s.numbers →
          RoundTrips Substitution.toJson (Substitution.read reader) s)) := by
  refine ⟨?_, ?_, ?_, ?_⟩
  · exact fun t => ⟨t.count_render, Term.roundTrips⟩
  · exact fun c => ⟨c.count_render, Comparison.roundTrips⟩
  · exact fun e => ⟨e.count_render, Equality.roundTrips⟩
  · exact fun s => ⟨s.count_render, Substitution.roundTrips⟩

/-- A name that has to be escaped and a negative zero are kept. One minus sign more on the term that
just stays within the limit is too much. -/
theorem round_trip_within_limit_signs :
    let reader := NumberReader.scaling
    let tenth : Number := ⟨false, 4591870180066957722, by decide⟩
    let t : Term := .binary .divide (.num ⟨true, 0, by decide⟩) (.num tenth)
    let c : Comparison := ⟨.lessEqual, .var "?\"\n", t⟩
    let e : Equality := ⟨t, .const "\\"⟩
    let s : Substitution := .ofList [("?x", t), ("", .var "?x")]
    let last : Term := Term.minus^[63] (.var "?x")
    tenth.text = "0.1" ∧ reader.RestoresAll t.numbers ∧ Term.read reader t.toJson.render = .ok t ∧
      Comparison.read reader c.toJson.render = .ok c ∧
      Equality.read reader e.toJson.render = .ok e ∧
      Substitution.read reader s.toJson.render = .ok s ∧ last.nesting = 127 ∧
      Term.read reader last.toJson.render = .ok last ∧
      Term.read reader last.minus.toJson.render = .error .malformed := by
  intro reader tenth t c e s last
  have htenth : tenth.text = "0.1" := by decide +kernel
  obtain ⟨hterm, hcomparison, hequality, hsubstitution⟩ := round_trip_within_limit reader
  have hrestores : reader.RestoresAll t.numbers := by decide +kernel
  have hnone : reader.RestoresAll [] := List.forall_mem_nil _
  obtain ⟨htcount, ht⟩ := hterm t
  obtain ⟨hccount, hc⟩ := hcomparison c
  obtain ⟨hecount, he⟩ := hequality e
  obtain ⟨hscount, hs⟩ := hsubstitution s
  obtain ⟨hlcount, hl⟩ := hterm last
  obtain ⟨hdcount, hd⟩ := hterm last.minus
  have hdeeper := hd hnone
  rw [RoundTrips, hdcount] at hdeeper
  exact ⟨htenth, hrestores, (ht hrestores).read_eq htcount (by decide),
    (hc hrestores).read_eq hccount (by decide), (he hrestores).read_eq hecount (by decide),
    (hs hrestores).read_eq hscount (by decide), by decide,
    (hl hnone).read_eq hlcount (by decide), hdeeper⟩

end Json

end PlanComparison
