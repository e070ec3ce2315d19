import Mathlib.Tactic.Common
import PlanComparison.Json.Reading
import PlanComparison.Json.Render
import PlanComparison.Proofs.NumeralText

namespace PlanComparison

namespace Token

theorem ofText_of_read {c : Char} {cs rest : List Char} {t : Token} (hc : isBlank c = false)
    (h : read (c :: cs) = some (t, rest)) : ofText (c :: cs) = t :: ofText rest := by
  rw [ofText, if_neg (Bool.eq_false_iff.mp hc)]
  split
  · rename_i hread
    rw [h] at hread
    cases hread
  · rename_i hread
    rw [h] at hread
    cases hread
    rfl

theorem ofText_write (s : String) (rest : List Char) :
    ofText (StringLiteral.write s ++ rest) = .string (some s) :: ofText rest := by
  apply ofText_of_read rfl
  change (StringLiteral.read ((StringLiteral.write s).tail ++ rest)).map _ = _
  rw [StringLiteral.read_write]
  rfl

def StartsNumeral (c : Char) : Prop := c = '-' ∨ ∃ d : Digit, c = d.char

theorem StartsNumeral.ne {c e : Char} (h : StartsNumeral c) (he : Digit.ofChar? e = none)
    (hminus : e ≠ '-') : c ≠ e := by
  rcases h with rfl | ⟨d, rfl⟩
  · exact hminus.symm
  · exact Digit.char_ne he

theorem StartsNumeral.read_eq {c : Char} (h : StartsNumeral c) (cs : List Char) :
    read (c :: cs) = (Numeral.read (c :: cs)).map (Prod.map (fun x => scalar (.number x)) id) := by
  unfold read
  split
  case h_11 => rfl
  all_goals
    rename_i heq
    exact absurd (List.cons.inj heq).1 (h.ne rfl (by decide))

theorem StartsNumeral.isBlank_eq {c : Char} (h : StartsNumeral c) : isBlank c = false := by
  simp [isBlank, h.ne (e := ' ') rfl, h.ne (e := '\t') rfl, h.ne (e := '\n') rfl,
    h.ne (e := '\r') rfl]

theorem ofText_numeral {x : Numeral} (hx : x.Proper) {rest : List Char}
    (hrest : Numeral.Ends rest) :
    ofText (x.text.toList ++ rest) = .scalar (.number x) :: ofText rest := by
  have hread := Numeral.read_text hx hrest
  obtain ⟨c, cs, hcs, hstart⟩ : ∃ c cs, x.text.toList = c :: cs ∧ StartsNumeral c :=
    hx.exists_cons_text
  rw [hcs, List.cons_append] at hread ⊢
  apply ofText_of_read hstart.isBlank_eq
  rw [hstart.read_eq, hread]
  rfl

end Token

namespace Json

/-- The values that are written as they are: none is broken off, and each string is a text. -/
inductive Written : Json → Prop
  | null : Written .null
  | bool (b : Bool) : Written (.bool b)
  | number {x : Numeral} (h : x.Proper) : Written (.number x)
  | text (s : String) : Written (.text s)
  | array {items : List Json} (h : ∀ v ∈ items, Written v) : Written (.array items)
  | record {fields : List (String × Json)} (h : ∀ f ∈ fields, Written f.2) :
    Written (.record fields)

mutual

def tokens : Json → List Token
  | string s => [.string s]
  | array items => .openArray :: (itemTokens [] items ++ [.closeArray])
  | object members => .openObject :: (memberTokens [] members ++ [.closeObject])
  | broken => []
  | v => [.scalar v]

def itemTokens (separator : List Token) : List Json → List Token
  | [] => []
  | v :: vs => separator ++ tokens v ++ itemTokens [.comma] vs

def memberTokens (separator : List Token) : List (Option String × Json) → List Token
  | [] => []
  | (k, v) :: ms => separator ++ [.string k, .colon] ++ tokens v ++ memberTokens [.comma] ms

end

inductive Separates : List Char → List Token → Prop
  | first : Separates [] []
  | next : Separates [','] [.comma]

theorem Separates.ofText_append {cs : List Char} {ts : List Token} (h : Separates cs ts)
    (rest : List Char) : Token.ofText (cs ++ rest) = ts ++ Token.ofText rest := by
  cases h with
  | first => rfl
  | next => exact Token.ofText_of_read rfl rfl

theorem ends_itemChars (vs : List Json) {rest : List Char} (h : Numeral.Ends rest) :
    Numeral.Ends (itemChars [','] vs ++ rest) := by
  cases vs with
  | nil => exact h
  | cons v vs =>
    intro c hc
    cases hc
    decide

theorem ends_memberChars (ms : List Member) {rest : List Char} (h : Numeral.Ends rest) :
    Numeral.Ends (memberChars [','] ms ++ rest) := by
  cases ms with
  | nil => exact h
  | cons m ms =>
    intro c hc
    cases hc
    decide

def ReadsTokens (v : Json) : Prop :=
  ∀ rest, Numeral.Ends rest → Token.ofText (v.chars ++ rest) = v.tokens ++ Token.ofText rest

theorem ofText_itemChars {cs : List Char} {ts : List Token} (hsep : Separates cs ts)
    {vs : List Json} (h : ∀ v ∈ vs, v.ReadsTokens) {rest : List Char} (hrest : Numeral.Ends rest) :
    Token.ofText (itemChars cs vs ++ rest) = itemTokens ts vs ++ Token.ofText rest := by
  induction vs generalizing cs ts with
  | nil => rfl
  | cons v vs ih =>
    have hv := h v List.mem_cons_self _ (ends_itemChars vs hrest)
    have htail := ih .next fun u hu => h u (List.mem_cons_of_mem v hu)
    rw [itemChars, itemTokens, List.append_assoc, List.append_assoc, hsep.ofText_append, hv, htail,
      List.append_assoc, List.append_assoc]

theorem ofText_memberChars {cs : List Char} {ts : List Token} (hsep : Separates cs ts)
    {fields : List (String × Json)} (h : ∀ f ∈ fields, f.2.ReadsTokens) {rest : List Char}
    (hrest : Numeral.Ends rest) :
    Token.ofText (memberChars cs (fields.map fun f => (some f.1, f.2)) ++ rest) =
      memberTokens ts (fields.map fun f => (some f.1, f.2)) ++ Token.ofText rest := by
  induction fields generalizing cs ts with
  | nil => rfl
  | cons f fields ih =>
    have hv := h f List.mem_cons_self _
      (ends_memberChars (fields.map fun f => (some f.1, f.2)) hrest)
    have htail := ih .next fun u hu => h u (List.mem_cons_of_mem f hu)
    have hcolon (xs : List Char) : Token.ofText (':' :: xs) = .colon :: Token.ofText xs :=
      Token.ofText_of_read rfl rfl
    simp only [List.map_cons, memberChars, memberTokens, stringChars, List.append_assoc,
      List.cons_append, List.nil_append, hsep.ofText_append, Token.ofText_write, hcolon, hv, htail]

theorem Written.readsTokens {v : Json} (h : v.Written) : v.ReadsTokens := by
  induction h with
  | null => exact fun rest _ => Token.ofText_of_read rfl rfl
  | bool b =>
    intro rest _
    cases b with
    | true => exact Token.ofText_of_read rfl rfl
    | false => exact Token.ofText_of_read rfl rfl
  | number hx => exact fun rest hrest => Token.ofText_numeral hx hrest
  | text s => exact fun rest _ => Token.ofText_write s rest
  | @array items _ ih =>
    intro rest hrest
    have hclose : Numeral.Ends (']' :: rest) := by
      intro c hc
      cases hc
      decide
    have hitems := ofText_itemChars .first ih hclose
    have hend : Token.ofText (']' :: rest) = .closeArray :: Token.ofText rest :=
      Token.ofText_of_read rfl rfl
    simp only [chars, tokens, List.cons_append, List.append_assoc, List.nil_append]
    rw [Token.ofText_of_read rfl rfl, hitems, hend]
  | @record fields _ ih =>
    intro rest hrest
    have hclose : Numeral.Ends ('}' :: rest) := by
      intro c hc
      cases hc
      decide
    have hmembers := ofText_memberChars .first ih hclose
    have hend : Token.ofText ('}' :: rest) = .closeObject :: Token.ofText rest :=
      Token.ofText_of_read rfl rfl
    simp only [Json.record, chars, tokens, List.cons_append, List.append_assoc, List.nil_append]
    rw [Token.ofText_of_read rfl rfl, hmembers, hend]

def resume : Step → List Token → Json × List Token
  | .next state slots, ts => run state slots ts
  | .done value, ts => (value, ts)
  | .stuck, _ => (broken, [])

theorem run_of_step {state : Expecting} {slots : List Slot} {t : Token} (ts : List Token)
    (h : step state slots t ≠ .stuck) :
    run state slots (t :: ts) = resume (step state slots t) ts := by
  rw [run]
  cases hstep : step state slots t with
  | next state slots => rfl
  | done value => rfl
  | stuck => exact absurd hstep h

theorem deliver_ne_stuck (v : Json) (slots : List Slot) : deliver v slots ≠ .stuck := by
  rcases slots with _ | ⟨slot, slots⟩
  · exact Step.noConfusion
  · cases slot <;> exact Step.noConfusion

def Builds (v : Json) : Prop :=
  ∀ slots ts, run .value slots (v.tokens ++ ts) = resume (deliver v slots) ts

theorem run_afterItem {vs : List Json} (h : ∀ v ∈ vs, v.Builds) (before : List Json)
    (slots : List Slot) (ts : List Token) :
    run (.afterItem before) slots (itemTokens [.comma] vs ++ .closeArray :: ts) =
      resume (deliver (array (before.reverse ++ vs)) slots) ts := by
  induction vs generalizing before with
  | nil =>
    rw [List.append_nil]
    exact run_of_step ts (deliver_ne_stuck _ _)
  | cons v vs ih =>
    have hv := h v List.mem_cons_self (.item before :: slots)
      (itemTokens [.comma] vs ++ .closeArray :: ts)
    have htail := ih (fun u hu => h u (List.mem_cons_of_mem v hu)) (v :: before)
    rw [List.reverse_cons, List.append_assoc, List.singleton_append] at htail
    rw [itemTokens, List.append_assoc, List.append_assoc]
    exact (run_of_step _ Step.noConfusion).trans (hv.trans htail)

theorem run_afterMember {ms : List Member} (h : ∀ m ∈ ms, m.2.Builds) (before : List Member)
    (slots : List Slot) (ts : List Token) :
    run (.afterMember before) slots (memberTokens [.comma] ms ++ .closeObject :: ts) =
      resume (deliver (object (before.reverse ++ ms)) slots) ts := by
  induction ms generalizing before with
  | nil =>
    rw [List.append_nil]
    exact run_of_step ts (deliver_ne_stuck _ _)
  | cons m ms ih =>
    obtain ⟨k, v⟩ := m
    have hv := h (k, v) List.mem_cons_self (.member before k :: slots)
      (memberTokens [.comma] ms ++ .closeObject :: ts)
    have htail := ih (fun u hu => h u (List.mem_cons_of_mem _ hu)) ((k, v) :: before)
    rw [List.reverse_cons, List.append_assoc, List.singleton_append] at htail
    rw [memberTokens, List.append_assoc, List.append_assoc]
    exact hv.trans htail

theorem Written.run_firstItem {v : Json} (h : v.Written) (slots : List Slot) (ts : List Token) :
    run .firstItem slots (v.tokens ++ ts) = run .value (.item [] :: slots) (v.tokens ++ ts) := by
  -- No value starts with the bracket that would close the array.
  cases h <;> rfl

theorem Written.builds {v : Json} (h : v.Written) : v.Builds := by
  induction h with
  | null => exact fun slots ts => run_of_step ts (deliver_ne_stuck _ _)
  | bool b => exact fun slots ts => run_of_step ts (deliver_ne_stuck _ _)
  | number hx => exact fun slots ts => run_of_step ts (deliver_ne_stuck _ _)
  | text s => exact fun slots ts => run_of_step ts (deliver_ne_stuck _ _)
  | @array items hitems ih =>
    intro slots ts
    have hopen : run .value slots ((Json.array items).tokens ++ ts) =
        run .firstItem slots (itemTokens [] items ++ .closeArray :: ts) := by
      rw [tokens, List.cons_append, List.append_assoc]
      rfl
    rw [hopen]
    cases items with
    | nil => exact run_of_step ts (deliver_ne_stuck _ _)
    | cons v vs =>
      have hfirst := (hitems v List.mem_cons_self).run_firstItem slots
        (itemTokens [.comma] vs ++ .closeArray :: ts)
      have hv := ih v List.mem_cons_self (.item [] :: slots)
        (itemTokens [.comma] vs ++ .closeArray :: ts)
      have htail := run_afterItem (fun u hu => ih u (List.mem_cons_of_mem v hu)) [v] slots ts
      rw [itemTokens, List.nil_append, List.append_assoc]
      exact hfirst.trans (hv.trans htail)
  | @record fields _ ih =>
    intro slots ts
    have hopen : run .value slots ((Json.record fields).tokens ++ ts) = run .firstKey slots
        (memberTokens [] (fields.map fun f => (some f.1, f.2)) ++ .closeObject :: ts) := by
      rw [Json.record, tokens, List.cons_append, List.append_assoc]
      rfl
    have hmembers : ∀ m ∈ fields.map fun f => (some f.1, f.2), m.2.Builds :=
      List.forall_mem_map.mpr ih
    rw [hopen, Json.record]
    generalize (fields.map fun f => (some f.1, f.2)) = ms at hmembers
    cases ms with
    | nil => exact run_of_step ts (deliver_ne_stuck _ _)
    | cons m ms =>
      obtain ⟨k, v⟩ := m
      have hv := hmembers (k, v) List.mem_cons_self (.member [] k :: slots)
        (memberTokens [.comma] ms ++ .closeObject :: ts)
      have htail := run_afterMember (fun u hu => hmembers u (List.mem_cons_of_mem _ hu)) [(k, v)]
        slots ts
      rw [memberTokens, List.append_assoc, List.append_assoc]
      exact hv.trans htail

theorem Written.ofText_render {v : Json} (h : v.Written) :
    Token.ofText v.render.toList = v.tokens := by
  have htokens := h.readsTokens [] fun c hc => nomatch hc
  rw [List.append_nil, Token.ofText, List.append_nil] at htokens
  rw [render, String.toList_ofList, htokens]

theorem Written.parse_render {v : Json} (h : v.Written) : parse v.render = (v, []) := by
  have hbuilds := h.builds [] []
  rw [List.append_nil] at hbuilds
  rw [parse, h.ofText_render, hbuilds]
  rfl

theorem Written.readText_render {α : Type} {v : Json} (h : v.Written) (read : Json → Read α) :
    readText read v.render = read v := by
  rw [readText, h.parse_render]
  cases hread : read v with
  | ok a => simp [hread, bind, Except.bind]; rfl
  | error e => simp [hread, bind, Except.bind]

end Json

end PlanComparison
