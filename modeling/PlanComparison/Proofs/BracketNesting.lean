import Mathlib.Data.List.Forall2
import PlanComparison.Json.Comparison
import PlanComparison.Json.Substitution
import PlanComparison.Proofs.JsonText
import PlanComparison.Proofs.WrittenNumber

namespace PlanComparison

namespace Brackets

inductive Place where
  | outside
  | quoted
  | escaped

/-- The most brackets open at once from here on, where `level` of them are open already. -/
def peak (place : Place) (level : Nat) : List Char → Nat
  | [] => level
  | c :: cs =>
    match place with
    | .escaped => peak .quoted level cs
    | .quoted =>
      if c = '\\' then peak .escaped level cs
      else if c = '"' then peak .outside level cs
      else peak .quoted level cs
    | .outside =>
      if c = '"' then peak .quoted level cs
      else if c = '[' ∨ c = '{' then peak .outside (level + 1) cs
      else if c = ']' ∨ c = '}' then max level (peak .outside (level - 1) cs)
      else peak .outside level cs

def count (text : String) : Nat := peak .outside 0 text.toList

example : count "[\"]]\\\"[\", \x7b\x7d, [1]]" = 2 := by decide

theorem le_peak (place : Place) (level : Nat) (cs : List Char) : level ≤ peak place level cs := by
  fun_induction peak place level cs <;> omega

abbrev Plain (c : Char) : Prop := c ≠ '"' ∧ c ≠ '[' ∧ c ≠ '{' ∧ c ≠ ']' ∧ c ≠ '}'

theorem peak_plain (level : Nat) {cs : List Char} (h : ∀ c ∈ cs, Plain c) (rest : List Char) :
    peak .outside level (cs ++ rest) = peak .outside level rest := by
  induction cs with
  | nil => rfl
  | cons c cs ih =>
    obtain ⟨hquote, hopen, hopen', hclose, hclose'⟩ := h c List.mem_cons_self
    have htail := ih fun d hd => h d (List.mem_cons_of_mem c hd)
    simp only [List.cons_append, peak, hquote, hopen, hopen', hclose, hclose', or_false, if_false,
      htail]

theorem peak_quoted (level : Nat) {c : Char} (hback : c ≠ '\\') (hquote : c ≠ '"')
    (rest : List Char) : peak .quoted level (c :: rest) = peak .quoted level rest := by
  simp only [peak, hback, hquote, if_false]

theorem peak_escape (level : Nat) (c : Char) (rest : List Char) :
    peak .quoted level (StringLiteral.escape c ++ rest) = peak .quoted level rest := by
  have hdigit : ∀ d < 16, Hex.digit d ≠ '\\' ∧ Hex.digit d ≠ '"' := by decide
  unfold StringLiteral.escape
  split
  case h_8 hquote hback _ _ _ _ _ =>
    split
    · have hhigh := hdigit (c.toNat / 16) (by omega)
      have hlow := hdigit (c.toNat % 16) (by omega)
      change peak .quoted level
        (Hex.digit (c.toNat / 16) :: Hex.digit (c.toNat % 16) :: rest) = _
      rw [peak_quoted level hhigh.1 hhigh.2, peak_quoted level hlow.1 hlow.2]
    · exact peak_quoted level hback hquote rest
  all_goals rfl

theorem peak_write (level : Nat) (s : String) (rest : List Char) :
    peak .outside level (StringLiteral.write s ++ rest) = peak .outside level rest := by
  have hchars (cs : List Char) :
      peak .quoted level (cs.flatMap StringLiteral.escape ++ '"' :: rest) =
        peak .outside level rest := by
    induction cs with
    | nil => rfl
    | cons c cs ih => rw [List.flatMap_cons, List.append_assoc, peak_escape, ih]
  rw [StringLiteral.write, List.cons_append, List.cons_append, List.append_assoc]
  exact hchars s.toList

theorem plain_numeral (x : Numeral) : ∀ c ∈ x.text.toList, Plain c := by
  have hdigit (d : Digit) : Plain d.char :=
    ⟨Digit.char_ne rfl, Digit.char_ne rfl, Digit.char_ne rfl, Digit.char_ne rfl,
      Digit.char_ne rfl⟩
  exact Numeral.forall_mem_text hdigit (by simp [Plain]) x

end Brackets

namespace Json

open Brackets (peak le_peak)

variable {reader : NumberReader}

theorem isSound_text (depth : Nat) (s : String) : isSound reader depth (.text s) = true := by
  cases depth <;> rfl

theorem isSound_number (depth : Nat) (x : Numeral) :
    isSound reader depth (.number x) = (reader x).isSome := by
  cases depth <;> rfl

theorem isSound_array_zero (vs : List Json) : isSound reader 0 (.array vs) = false := rfl

theorem isSound_array_succ (depth : Nat) (vs : List Json) :
    isSound reader (depth + 1) (.array vs) = vs.all (isSound reader depth) := rfl

theorem isSound_object_zero (ms : List Member) : isSound reader 0 (.object ms) = false := rfl

theorem isSound_object_succ (depth : Nat) (ms : List Member) :
    isSound reader (depth + 1) (.object ms) =
      ms.all fun m => m.1.isSome && isSound reader depth m.2 := rfl

/-- The value is written with `n` brackets open at once, and needs a depth of `n` to be sound. -/
structure Nests (reader : NumberReader) (v : Json) (n : Nat) : Prop where
  written : v.Written
  peak_eq : ∀ level rest, peak .outside level (v.chars ++ rest) =
    max (level + n) (peak .outside level rest)
  isSound_eq : ∀ depth, v.isSound reader depth = decide (n ≤ depth)

theorem Nests.text (s : String) : (Json.text s).Nests reader 0 where
  written := .text s
  peak_eq level rest :=
    (Brackets.peak_write level s rest).trans (Nat.max_eq_right (le_peak _ level rest)).symm
  isSound_eq depth := by simp [isSound_text]

theorem Nests.number {x : Number} (h : reader.Restores x) :
    (Json.number x.numeral).Nests reader 0 where
  written := .number x.proper_numeral
  peak_eq level rest :=
    (Brackets.peak_plain level (Brackets.plain_numeral x.numeral) rest).trans
      (Nat.max_eq_right (le_peak _ level rest)).symm
  isSound_eq depth := by
    have hread : reader x.numeral = some (.finite x) := h
    rw [isSound_number, hread]
    simp

theorem peak_items {vs : List Json} {ns : List Nat} (h : List.Forall₂ (Nests reader) vs ns)
    {separator : List Char}
    (hsep : ∀ level rest, peak .outside level (separator ++ rest) = peak .outside level rest)
    (level : Nat) (rest : List Char) :
    peak .outside level (itemChars separator vs ++ rest) =
      max (level + ns.foldr max 0) (peak .outside level rest) := by
  induction h generalizing separator with
  | nil => exact (Nat.max_eq_right (le_peak _ level rest)).symm
  | cons hv _ ih =>
    have hcomma (level : Nat) (rest : List Char) :
        peak .outside level ([','] ++ rest) = peak .outside level rest := rfl
    have htail := ih hcomma
    rw [itemChars, List.append_assoc, List.append_assoc, hsep, hv.peak_eq, htail,
      List.foldr_cons]
    omega

theorem peak_members {fields : List (String × Json)} {ns : List Nat}
    (h : List.Forall₂ (fun f n => Nests reader f.2 n) fields ns) {separator : List Char}
    (hsep : ∀ level rest, peak .outside level (separator ++ rest) = peak .outside level rest)
    (level : Nat) (rest : List Char) :
    peak .outside level (memberChars separator (fields.map fun f => (some f.1, f.2)) ++ rest) =
      max (level + ns.foldr max 0) (peak .outside level rest) := by
  induction h generalizing separator with
  | nil => exact (Nat.max_eq_right (le_peak _ level rest)).symm
  | cons hv _ ih =>
    have hcomma (level : Nat) (rest : List Char) :
        peak .outside level ([','] ++ rest) = peak .outside level rest := rfl
    have hcolon (level : Nat) (rest : List Char) :
        peak .outside level ([':'] ++ rest) = peak .outside level rest := rfl
    have htail := ih hcomma
    rw [List.map_cons, memberChars, List.append_assoc, List.append_assoc, List.append_assoc,
      List.append_assoc, hsep, stringChars, Brackets.peak_write, hcolon, hv.peak_eq, htail,
      List.foldr_cons]
    omega

theorem isSound_items {vs : List Json} {ns : List Nat} (h : List.Forall₂ (Nests reader) vs ns)
    (depth : Nat) : vs.all (isSound reader depth) = decide (ns.foldr max 0 ≤ depth) := by
  induction h with
  | nil => rfl
  | cons hv _ ih =>
    rw [List.all_cons, hv.isSound_eq, ih, List.foldr_cons, ← Bool.decide_and]
    exact decide_eq_decide.mpr Nat.max_le.symm

theorem isSound_members {fields : List (String × Json)} {ns : List Nat}
    (h : List.Forall₂ (fun f n => Nests reader f.2 n) fields ns) (depth : Nat) :
    (fields.map fun f => (some f.1, f.2)).all (fun m : Member => m.1.isSome && isSound reader depth m.2) =
      decide (ns.foldr max 0 ≤ depth) := by
  induction h with
  | nil => rfl
  | cons hv _ ih =>
    rw [List.map_cons, List.all_cons, hv.isSound_eq, ih, List.foldr_cons, Option.isSome_some,
      Bool.true_and, ← Bool.decide_and]
    exact decide_eq_decide.mpr Nat.max_le.symm

theorem Nests.array {vs : List Json} {ns : List Nat} (h : List.Forall₂ (Nests reader) vs ns) :
    (Json.array vs).Nests reader (ns.foldr max 0 + 1) where
  written := by
    apply Written.array
    intro v hv
    induction h with
    | nil => cases hv
    | cons hn _ ih =>
      rcases List.mem_cons.mp hv with rfl | hv
      · exact hn.written
      · exact ih hv
  peak_eq level rest := by
    have hle := le_peak .outside level rest
    have hopen (cs : List Char) :
        peak .outside level ('[' :: cs) = peak .outside (level + 1) cs := rfl
    have hclose : peak .outside (level + 1) (']' :: rest) =
        max (level + 1) (peak .outside level rest) := rfl
    rw [chars, List.cons_append, List.cons_append, List.append_assoc, hopen,
      peak_items h fun _ _ => rfl, List.singleton_append, hclose]
    omega
  isSound_eq depth := by
    cases depth with
    | zero => simp [isSound_array_zero]
    | succ depth => simp [isSound_array_succ, isSound_items h]

theorem Nests.record {fields : List (String × Json)} {ns : List Nat}
    (h : List.Forall₂ (fun f n => Nests reader f.2 n) fields ns) :
    (Json.record fields).Nests reader (ns.foldr max 0 + 1) where
  written := by
    apply Written.record
    intro f hf
    induction h with
    | nil => cases hf
    | cons hn _ ih =>
      rcases List.mem_cons.mp hf with rfl | hf
      · exact hn.written
      · exact ih hf
  peak_eq level rest := by
    have hle := le_peak .outside level rest
    have hopen (cs : List Char) :
        peak .outside level ('{' :: cs) = peak .outside (level + 1) cs := rfl
    have hclose : peak .outside (level + 1) ('}' :: rest) =
        max (level + 1) (peak .outside level rest) := rfl
    rw [Json.record, chars, List.cons_append, List.cons_append, List.append_assoc, hopen,
      peak_members h fun _ _ => rfl, List.singleton_append, hclose]
    omega
  isSound_eq depth := by
    cases depth with
    | zero => simp [Json.record, isSound_object_zero]
    | succ depth =>
      have hmembers := isSound_members h depth
      simp only [Json.record, isSound_object_succ, hmembers]
      simp

theorem Nests.count_render {v : Json} {n : Nat} (h : v.Nests reader n) :
    Brackets.count v.render = n := by
  have hpeak := h.peak_eq 0 []
  rw [List.append_nil] at hpeak
  rw [Brackets.count, render, String.toList_ofList, hpeak]
  simp [peak]

end Json

def Term.nesting : Term → Nat
  | var _ => 1
  | const _ => 1
  | num _ => 1
  | minus a => a.nesting + 2
  | binary _ a b => max a.nesting b.nesting + 2

def Comparison.nesting (c : Comparison) : Nat := max c.left.nesting c.right.nesting + 1

def Equality.nesting (e : Equality) : Nat := e.toComparison.nesting

def Substitution.nesting (s : Substitution) : Nat :=
  (s.entries.map fun e => e.2.nesting).foldr max 0 + 2

def Term.numbers : Term → List Number
  | var _ => []
  | const _ => []
  | num x => [x]
  | minus a => a.numbers
  | binary _ a b => a.numbers ++ b.numbers

def Comparison.numbers (c : Comparison) : List Number := c.left.numbers ++ c.right.numbers

def Equality.numbers (e : Equality) : List Number := e.toComparison.numbers

def Substitution.numbers (s : Substitution) : List Number :=
  s.entries.flatMap fun e => e.2.numbers

open Json

section Numbers

variable {reader : NumberReader}

theorem Term.nests_arithmetic (op : Operator) {operands : List Json} {ns : List Nat}
    (h : List.Forall₂ (Nests reader) operands ns) :
    (Json.record [("type", .text Kind.arithmetic.tag), ("op", op.toJson),
      ("args", .array operands)]).Nests reader (ns.foldr max 0 + 2) := by
  have hfields : List.Forall₂ (fun f n => Nests reader f.2 n)
      [("type", Json.text Kind.arithmetic.tag), ("op", op.toJson), ("args", .array operands)]
      [0, 0, ns.foldr max 0 + 1] :=
    .cons (.text _) (.cons (.text _) (.cons (.array h) .nil))
  simpa using Nests.record hfields

theorem Term.nests_toJson {t : Term} (h : reader.RestoresAll t.numbers) :
    t.toJson.Nests reader t.nesting := by
  induction t with
  | var name =>
    have hfields : List.Forall₂ (fun f n => Nests reader f.2 n)
        [("type", Json.text "Variable"), ("name", Json.text name)] [0, 0] :=
      .cons (.text _) (.cons (.text name) .nil)
    exact .record hfields
  | const name =>
    have hfields : List.Forall₂ (fun f n => Nests reader f.2 n)
        [("type", Json.text "Constant"), ("name", Json.text name)] [0, 0] :=
      .cons (.text _) (.cons (.text name) .nil)
    exact .record hfields
  | num x =>
    have hvalue := Nests.number (h x List.mem_cons_self)
    have hfields : List.Forall₂ (fun f n => Nests reader f.2 n)
        [("type", Json.text "Number"), ("value", Json.number x.numeral)] [0, 0] :=
      .cons (.text _) (.cons hvalue .nil)
    exact .record hfields
  | minus a ih =>
    have hnesting : a.minus.nesting = [a.nesting].foldr max 0 + 2 := by simp [nesting]
    rw [hnesting]
    exact nests_arithmetic .minus (.cons (ih h) .nil)
  | binary op a b iha ihb =>
    have hnesting : (binary op a b).nesting = [a.nesting, b.nesting].foldr max 0 + 2 := by
      simp [nesting]
    obtain ⟨ha, hb⟩ := List.forall_mem_append.mp h
    rw [hnesting]
    exact nests_arithmetic (.binary op) (.cons (iha ha) (.cons (ihb hb) .nil))

theorem Comparison.nests_toJson {c : Comparison} (h : reader.RestoresAll c.numbers) :
    c.toJson.Nests reader c.nesting := by
  obtain ⟨hleft, hright⟩ := List.forall_mem_append.mp h
  have hfields : List.Forall₂ (fun f n => Nests reader f.2 n)
      [("op", c.op.toJson), ("arg1", c.left.toJson), ("arg2", c.right.toJson)]
      [0, c.left.nesting, c.right.nesting] :=
    .cons (.text _) (.cons (Term.nests_toJson hleft) (.cons (Term.nests_toJson hright) .nil))
  have hnesting : c.nesting = [0, c.left.nesting, c.right.nesting].foldr max 0 + 1 := by
    simp [nesting]
  rw [hnesting]
  exact .record hfields

theorem Equality.nests_toJson {e : Equality} (h : reader.RestoresAll e.numbers) :
    e.toJson.Nests reader e.nesting :=
  Comparison.nests_toJson h

/-- The pairs written as a substitution is, one after another, whether or not a name comes again. -/
def Substitution.listing (ps : List (String × Term)) : Json :=
  .record [("map", .record (ps.map fun e => (e.1, e.2.toJson)))]

theorem Substitution.nests_listing {ps : List (String × Term)}
    (h : reader.RestoresAll (ps.flatMap fun e => e.2.numbers)) :
    (listing ps).Nests reader ((ps.map fun e => e.2.nesting).foldr max 0 + 2) := by
  have hbindings : List.Forall₂ (fun f n => Nests reader f.2 n) (ps.map fun e => (e.1, e.2.toJson))
      (ps.map fun e => e.2.nesting) := by
    rw [List.forall₂_map_left_iff, List.forall₂_map_right_iff, List.forall₂_same]
    exact fun e he => Term.nests_toJson (List.forall_mem_flatMap.mp h e he)
  have hmap : List.Forall₂ (fun f n => Nests reader f.2 n)
      [("map", Json.record (ps.map fun e => (e.1, e.2.toJson)))]
      [(ps.map fun e => e.2.nesting).foldr max 0 + 1] :=
    .cons (.record hbindings) .nil
  have hrecord := Nests.record hmap
  rw [List.foldr_cons, List.foldr_nil, Nat.max_zero] at hrecord
  exact hrecord

theorem Substitution.nests_toJson {s : Substitution} (h : reader.RestoresAll s.numbers) :
    s.toJson.Nests reader s.nesting :=
  nests_listing h

end Numbers

-- How a text is written does not depend on a reader, so that any that restores all numbers will do.
section Counts

open NumberReader (restores_nearest)

theorem Term.count_render (t : Term) : Brackets.count t.toJson.render = t.nesting :=
  (nests_toJson fun x _ => restores_nearest x).count_render

theorem Comparison.count_render (c : Comparison) : Brackets.count c.toJson.render = c.nesting :=
  (nests_toJson fun x _ => restores_nearest x).count_render

theorem Equality.count_render (e : Equality) : Brackets.count e.toJson.render = e.nesting :=
  (nests_toJson fun x _ => restores_nearest x).count_render

theorem Substitution.count_render (s : Substitution) :
    Brackets.count s.toJson.render = s.nesting :=
  (nests_toJson fun x _ => restores_nearest x).count_render

theorem Substitution.count_render_listing (ps : List (String × Term)) :
    Brackets.count (listing ps).render = (ps.map fun e => e.2.nesting).foldr max 0 + 2 :=
  (nests_listing fun x _ => restores_nearest x).count_render

end Counts

end PlanComparison
