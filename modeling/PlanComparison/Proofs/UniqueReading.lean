import PlanComparison.Json.Term
import PlanComparison.Proofs.Expression
import PlanComparison.Proofs.NumberText

/-!
An expression can be read off its printed form in one way only, if its names look like names. A
name or a number goes on to the next space or parenthesis, and its first character tells what it
is; and where a symbol stands for two operators, the operands that follow tell which is meant.
-/

namespace PlanComparison

section Words

def isDelimiter (c : Char) : Bool := c == ' ' || c == '(' || c == ')'

def isUnbroken (word : String) : Bool := word.toList.all fun c => !isDelimiter c

def Delimits (rest : List Char) : Prop := ∀ c ∈ rest.head?, isDelimiter c = true

theorem delimits_cons {c : Char} (h : isDelimiter c = true) (cs : List Char) :
    Delimits (c :: cs) := by
  intro d hd
  cases hd
  exact h

variable {word word' : String} (hword : isUnbroken word = true) {rest rest' : List Char}

include hword

theorem takeWhile_word (hrest : Delimits rest) :
    (word.toList ++ rest).takeWhile (!isDelimiter ·) = word.toList := by
  rw [List.takeWhile_append_of_pos (List.all_eq_true.mp hword)]
  cases rest with
  | nil => rw [List.takeWhile_nil, List.append_nil]
  | cons c cs =>
    rw [List.takeWhile_cons_of_neg (by simp [hrest c rfl]), List.append_nil]

variable (hword' : isUnbroken word' = true)

include hword'

theorem word_append_inj (hrest : Delimits rest) (hrest' : Delimits rest')
    (h : word.toList ++ rest = word'.toList ++ rest') : word = word' ∧ rest = rest' := by
  have heq : word.toList = word'.toList := by
    rw [← takeWhile_word hword hrest, h, takeWhile_word hword' hrest']
  exact ⟨String.toList_inj.mp heq, List.append_cancel_left (heq ▸ h)⟩

theorem symbol_append_inj
    (h : '(' :: (word.toList ++ ' ' :: rest) = '(' :: (word'.toList ++ ' ' :: rest')) :
    word = word' ∧ rest = rest' := by
  obtain ⟨hsymbol, hrest⟩ := word_append_inj hword hword' (delimits_cons rfl rest)
    (delimits_cons rfl rest') (List.cons.inj h).2
  exact ⟨hsymbol, (List.cons.inj hrest).2⟩

end Words

theorem BinaryOp.isUnbroken_symbol (op : BinaryOp) : isUnbroken op.symbol = true := by
  cases op <;> rfl

theorem BinaryOp.symbol_inj {op op' : BinaryOp} (h : op.symbol = op'.symbol) : op = op' := by
  cases op <;> cases op' <;> first | rfl | exact absurd h (by decide)

theorem Comparator.isUnbroken_symbol (op : Comparator) : isUnbroken op.symbol = true := by
  cases op <;> rfl

theorem Comparator.symbol_inj {op op' : Comparator} (h : op.symbol = op'.symbol) : op = op' := by
  cases op <;> cases op' <;> first | rfl | exact absurd h (by decide)

theorem Operator.symbol_ne_comparator (op : Operator) (c : Comparator) :
    op.symbol ≠ c.symbol := by
  rcases op with op | _
  · cases op <;> cases c <;> decide
  · cases c <;> decide

theorem Number.isUnbroken_text (x : Number) : isUnbroken x.text = true := by
  have hplain : ∀ c ∈ x.text.toList, isDelimiter c = false :=
    Numeral.forall_mem_text (by decide) (by simp [isDelimiter]) x.printed
  simpa [isUnbroken] using hplain

namespace Term

/-- The names that a parser of planning domains gives: variables start with a question mark and
constants with a letter, and no name has a delimiter in it. -/
def hasPlainNames : Term → Bool
  | var name => name.toList.head? == some '?' && isUnbroken name
  | const name => name.toList.head?.any Char.isAlpha && isUnbroken name
  | num _ => true
  | minus a => a.hasPlainNames
  | binary _ a b => a.hasPlainNames && b.hasPlainNames

theorem text_minus_append (a : Term) (rest : List Char) : (minus a).text.toList ++ rest =
    '(' :: (Operator.minus.symbol.toList ++ ' ' :: (a.text.toList ++ ')' :: rest)) := by
  simp [text]

theorem text_binary_append (op : BinaryOp) (a b : Term) (rest : List Char) :
    (binary op a b).text.toList ++ rest = '(' :: (op.symbol.toList ++
      ' ' :: (a.text.toList ++ ' ' :: (b.text.toList ++ ')' :: rest))) := by
  simp [text]

def kindAt (c : Char) : Kind :=
  if c = '?' then .var else if c.isAlpha then .const else if c = '(' then .arithmetic else .num

theorem exists_cons_text {t : Term} (h : t.hasPlainNames = true) :
    ∃ c cs, t.text.toList = c :: cs ∧ kindAt c = t.kind := by
  cases t with
  | var name =>
    rw [hasPlainNames, Bool.and_eq_true_iff, beq_iff_eq, List.head?_eq_some_iff] at h
    obtain ⟨⟨cs, hcs⟩, -⟩ := h
    exact ⟨_, cs, hcs, rfl⟩
  | const name =>
    rw [hasPlainNames, Bool.and_eq_true_iff, Option.any_eq_true] at h
    obtain ⟨⟨c, hc, halpha⟩, -⟩ := h
    obtain ⟨cs, hcs⟩ := List.head?_eq_some_iff.mp hc
    refine ⟨c, cs, hcs, ?_⟩
    have hmark : c ≠ '?' := by
      rintro rfl
      cases halpha
    rw [kindAt, if_neg hmark, if_pos halpha, kind]
  | num x =>
    obtain ⟨c, cs, hcs, hc⟩ := x.proper_printed.exists_cons_text
    refine ⟨c, cs, hcs, ?_⟩
    have hdigit : ∀ d : Digit, kindAt d.char = .num := by decide
    rcases hc with rfl | ⟨d, rfl⟩
    · rfl
    · exact hdigit d
  | minus a => exact ⟨_, _, (List.append_nil _).symm.trans (a.text_minus_append []), rfl⟩
  | binary op a b =>
    exact ⟨_, _, (List.append_nil _).symm.trans (text_binary_append op a b []), rfl⟩

theorem kind_eq_of_text {t u : Term} (ht : t.hasPlainNames = true) (hu : u.hasPlainNames = true)
    {rest rest' : List Char} (h : t.text.toList ++ rest = u.text.toList ++ rest') :
    t.kind = u.kind := by
  obtain ⟨c, cs, hc, htkind⟩ := exists_cons_text ht
  obtain ⟨d, ds, hd, hukind⟩ := exists_cons_text hu
  rw [hc, hd] at h
  rw [← htkind, (List.cons.inj h).1, hukind]

theorem text_append_inj {t u : Term} (ht : t.hasPlainNames = true) (hu : u.hasPlainNames = true)
    {rest rest' : List Char} (hrest : Delimits rest) (hrest' : Delimits rest')
    (h : t.text.toList ++ rest = u.text.toList ++ rest') : t = u ∧ rest = rest' := by
  induction t generalizing u rest rest' with
  | var name =>
    cases u with
    | var name' =>
      have hname := (Bool.and_eq_true_iff.mp ht).2
      have hname' := (Bool.and_eq_true_iff.mp hu).2
      obtain ⟨rfl, hrest⟩ := word_append_inj hname hname' hrest hrest' h
      exact ⟨rfl, hrest⟩
    | _ => cases kind_eq_of_text ht hu h
  | const name =>
    cases u with
    | const name' =>
      have hname := (Bool.and_eq_true_iff.mp ht).2
      have hname' := (Bool.and_eq_true_iff.mp hu).2
      obtain ⟨rfl, hrest⟩ := word_append_inj hname hname' hrest hrest' h
      exact ⟨rfl, hrest⟩
    | _ => cases kind_eq_of_text ht hu h
  | num x =>
    cases u with
    | num y =>
      obtain ⟨htext, hrest⟩ :=
        word_append_inj x.isUnbroken_text y.isUnbroken_text hrest hrest' h
      exact ⟨congrArg num (Number.text_inj htext), hrest⟩
    | _ => cases kind_eq_of_text ht hu h
  | minus a ih =>
    cases u with
    | minus b =>
      have hplain : b.hasPlainNames = true := hu
      rw [text_minus_append, text_minus_append] at h
      obtain ⟨-, hoperand⟩ := symbol_append_inj rfl rfl h
      obtain ⟨rfl, hclose⟩ := ih ht hplain (delimits_cons rfl _) (delimits_cons rfl _) hoperand
      exact ⟨rfl, (List.cons.inj hclose).2⟩
    | binary op b c =>
      -- Both may be written with one symbol; then only one of them goes on to a second operand.
      have hplain := Bool.and_eq_true_iff.mp hu
      rw [text_minus_append, text_binary_append] at h
      obtain ⟨-, hoperand⟩ := symbol_append_inj rfl op.isUnbroken_symbol h
      obtain ⟨-, hclose⟩ := ih ht hplain.1 (delimits_cons rfl _) (delimits_cons rfl _) hoperand
      cases (List.cons.inj hclose).1
    | _ => cases kind_eq_of_text ht hu h
  | binary op a b iha ihb =>
    have hplain := Bool.and_eq_true_iff.mp ht
    cases u with
    | minus c =>
      have hplain' : c.hasPlainNames = true := hu
      rw [text_binary_append, text_minus_append] at h
      obtain ⟨-, hoperand⟩ := symbol_append_inj op.isUnbroken_symbol rfl h
      obtain ⟨-, hclose⟩ := iha hplain.1 hplain' (delimits_cons rfl _) (delimits_cons rfl _)
        hoperand
      cases (List.cons.inj hclose).1
    | binary op' a' b' =>
      have hplain' := Bool.and_eq_true_iff.mp hu
      rw [text_binary_append, text_binary_append] at h
      obtain ⟨hsymbol, hoperands⟩ := symbol_append_inj op.isUnbroken_symbol op'.isUnbroken_symbol h
      obtain ⟨rfl, hright⟩ := iha hplain.1 hplain'.1 (delimits_cons rfl _) (delimits_cons rfl _)
        hoperands
      obtain ⟨rfl, hclose⟩ := ihb hplain.2 hplain'.2 (delimits_cons rfl _) (delimits_cons rfl _)
        (List.cons.inj hright).2
      exact ⟨by rw [BinaryOp.symbol_inj hsymbol], (List.cons.inj hclose).2⟩
    | _ => cases kind_eq_of_text ht hu h

theorem text_inj {t u : Term} (ht : t.hasPlainNames = true) (hu : u.hasPlainNames = true)
    (h : t.text = u.text) : t = u := by
  have hend : Delimits [] := fun c hc => nomatch hc
  exact (text_append_inj ht hu hend hend (by rw [h])).1

end Term

namespace Comparison

def hasPlainNames (c : Comparison) : Bool := c.left.hasPlainNames && c.right.hasPlainNames

theorem toList_text (c : Comparison) : c.text.toList = '(' :: (c.op.symbol.toList ++
    ' ' :: (c.left.text.toList ++ ' ' :: (c.right.text.toList ++ [')']))) := by
  simp [text]

theorem text_inj {c d : Comparison} (hc : c.hasPlainNames = true) (hd : d.hasPlainNames = true)
    (h : c.text = d.text) : c = d := by
  have hlist := congrArg String.toList h
  have hc := Bool.and_eq_true_iff.mp hc
  have hd := Bool.and_eq_true_iff.mp hd
  rw [toList_text, toList_text] at hlist
  obtain ⟨hsymbol, hoperands⟩ :=
    symbol_append_inj c.op.isUnbroken_symbol d.op.isUnbroken_symbol hlist
  obtain ⟨hleft, hright⟩ := Term.text_append_inj hc.1 hd.1 (delimits_cons rfl _)
    (delimits_cons rfl _) hoperands
  obtain ⟨hright, -⟩ := Term.text_append_inj hc.2 hd.2 (delimits_cons rfl _)
    (delimits_cons rfl _) (List.cons.inj hright).2
  cases c
  cases d
  cases Comparator.symbol_inj hsymbol
  cases hleft
  cases hright
  rfl

theorem text_ne_term (c : Comparison) {t : Term} (ht : t.hasPlainNames = true) :
    t.text ≠ c.text := by
  intro h
  have hlist := (congrArg String.toList h).trans c.toList_text
  have hkind : t.kind = .arithmetic := by
    obtain ⟨d, ds, hd, hkind⟩ := Term.exists_cons_text ht
    rw [hd] at hlist
    rw [← hkind, (List.cons.inj hlist).1]
    rfl
  cases t with
  | minus a =>
    rw [← List.append_nil (Term.text _).toList, Term.text_minus_append] at hlist
    exact Operator.symbol_ne_comparator .minus c.op
      (symbol_append_inj rfl c.op.isUnbroken_symbol hlist).1
  | binary op a b =>
    rw [← List.append_nil (Term.text _).toList, Term.text_binary_append] at hlist
    exact Operator.symbol_ne_comparator (.binary op) c.op
      (symbol_append_inj op.isUnbroken_symbol c.op.isUnbroken_symbol hlist).1
  | _ => cases hkind

end Comparison

namespace Equality

def hasPlainNames (e : Equality) : Bool := e.toComparison.hasPlainNames

theorem text_inj {e f : Equality} (he : e.hasPlainNames = true) (hf : f.hasPlainNames = true)
    (h : e.text = f.text) : e = f :=
  toComparison_inj (Comparison.text_inj he hf h)

end Equality

namespace Expression

theorem printed_form_is_unambiguous :
    (∀ t u : Term, t.hasPlainNames = true → u.hasPlainNames = true → t.text = u.text → t = u) ∧
      (∀ c d : Comparison,
        c.hasPlainNames = true → d.hasPlainNames = true → c.text = d.text → c = d) ∧
      (∀ e f : Equality,
        e.hasPlainNames = true → f.hasPlainNames = true → e.text = f.text → e = f) ∧
      ∀ (t : Term) (c : Comparison), t.hasPlainNames = true → t.text ≠ c.text := by
  refine ⟨?_, ?_, ?_, ?_⟩
  · intro t u ht hu h
    exact Term.text_inj ht hu h
  · intro c d hc hd h
    exact Comparison.text_inj hc hd h
  · intro e f he hf h
    exact Equality.text_inj he hf h
  · intro t c ht
    exact c.text_ne_term ht

theorem printed_form_is_unambiguous_minus :
    let half : Term := .num ⟨true, 1022 * binade, by decide⟩
    let s : Substitution := .ofList [("?z", .minus (.var "?x"))]
    let t : Term := .binary .subtract (.minus (.var "?x")) half
    let u : Term := .minus (.binary .subtract (.var "?x") half)
    let source : Term := .binary .subtract (.var "?z") half
    let c : Comparison := ⟨.less, source, .const "block-a"⟩
    let e : Equality := ⟨u, source⟩
    t.text = "(- (- ?x) -0.5)" ∧ u.text = "(- (- ?x -0.5))" ∧
      t.hasPlainNames = true ∧ u.hasPlainNames = true ∧ t.text ≠ u.text ∧
      (source.apply s).text = t.text ∧ source.apply s = t ∧
      (c.apply s).text = "(< (- (- ?x) -0.5) block-a)" ∧
      c.apply s = ⟨.less, t, .const "block-a"⟩ ∧
      (e.apply s).text = "(= (- (- ?x -0.5)) (- (- ?x) -0.5))" ∧ e.apply s = ⟨u, t⟩ ∧
      t.text ≠ c.text := by
  intro half s t u source c e
  obtain ⟨hterms, hcomparisons, hequalities, hkinds⟩ := printed_form_is_unambiguous
  have ht : t.hasPlainNames = true := by decide +kernel
  have hu : u.hasPlainNames = true := by decide +kernel
  have hne : t.text ≠ u.text := by
    intro h
    exact Term.noConfusion (hterms t u ht hu h)
  have htext : (source.apply s).text = t.text := by decide +kernel
  have hctext : (c.apply s).text = "(< (- (- ?x) -0.5) block-a)" := by decide +kernel
  have hetext : (e.apply s).text = "(= (- (- ?x -0.5)) (- (- ?x) -0.5))" := by decide +kernel
  refine ⟨by decide +kernel, by decide +kernel, ht, hu, hne, htext, ?_, hctext, ?_, hetext, ?_,
    hkinds t c ht⟩
  · exact hterms _ t (by decide +kernel) ht htext
  · exact hcomparisons _ _ (by decide +kernel) (by decide +kernel)
      (hctext.trans (by decide +kernel))
  · exact hequalities _ _ (by decide +kernel) (by decide +kernel)
      (hetext.trans (by decide +kernel))

end Expression

end PlanComparison
