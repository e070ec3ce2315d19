import PlanComparison.Proofs.BracketNesting

namespace PlanComparison

namespace Read

variable {α β σ γ : Type} {P : α → Prop}

def Yields (r : Read α) (P : α → Prop) : Prop := ∀ a, r = .ok a → P a

theorem Yields.pure {a : α} (h : P a) : Yields (pure a) P := by
  intro b hb
  cases hb
  exact h

theorem yields_malformed : Yields malformed P := by
  intro a ha
  cases ha

theorem Yields.bind {Q : β → Prop} {r : Read α} {f : α → Read β} (h : Yields r P)
    (hf : ∀ a, P a → Yields (f a) Q) : Yields (r >>= f) Q := by
  cases r with
  | error e =>
    intro b hb
    cases hb
  | ok a => exact hf a (h a rfl)

theorem yields_true (r : Read α) : Yields r fun _ => True := fun _ _ => trivial

theorem yields_ofOption {x : Option α} (h : ∀ a ∈ x, P a) : Yields (ofOption x) P := by
  cases x with
  | none => exact yields_malformed
  | some a => exact .pure (h a rfl)

theorem yields_accept {r : Except Error α} (h : ∀ a, r = .ok a → P a) : Yields (accept r) P := by
  cases r with
  | error e =>
    intro a ha
    cases ha
  | ok a => exact .pure (h a rfl)

theorem yields_once {slot : Option α} {read : Json → Read α} {v : Json} (h : Yields (read v) P) :
    Yields (once slot read v) fun x => ∀ a ∈ x, P a := by
  cases slot with
  | some a => exact yields_malformed
  | none =>
    refine h.bind fun a ha => .pure ?_
    rintro b ⟨⟩
    exact ha

theorem yields_skip {Q : σ → Prop} {found : σ} (m : Json.Member) (h : Q found) :
    Yields (Json.skip found m) Q := by
  unfold Json.skip
  split
  · exact .pure h
  · exact yields_malformed

theorem yields_mapM {item : γ → Read α} {xs : List γ} (h : ∀ x ∈ xs, Yields (item x) P) :
    Yields (xs.mapM item) fun ys => ∀ a ∈ ys, P a := by
  induction xs with
  | nil => exact .pure fun a ha => nomatch ha
  | cons x xs ih =>
    rw [List.mapM_cons]
    refine (h x List.mem_cons_self).bind fun a ha => ?_
    refine (ih fun y hy => h y (List.mem_cons_of_mem x hy)).bind fun as has => .pure ?_
    exact List.forall_mem_cons.mpr ⟨ha, has⟩

theorem yields_foldlM {Q : σ → Prop} {step : σ → γ → Read σ} {xs : List γ}
    (h : ∀ x ∈ xs, ∀ found, Q found → Yields (step found x) Q) {start : σ} (hstart : Q start) :
    Yields (xs.foldlM step start) Q := by
  induction xs generalizing start with
  | nil => exact .pure hstart
  | cons x xs ih =>
    rw [List.foldlM_cons]
    refine (h x List.mem_cons_self start hstart).bind fun found hfound => ?_
    exact ih (fun y hy => h y (List.mem_cons_of_mem x hy)) hfound

theorem yields_readText {read : Json → Read α} (h : ∀ v, Yields (read v) P) (text : String) :
    Yields (Json.readText read text) P := by
  rw [Json.readText]
  refine (h _).bind fun a ha => ?_
  split
  · exact .pure ha
  · exact yields_malformed

end Read

open Read

section Numbers

variable {reader : NumberReader}

namespace Json

theorem yields_readList {α : Type} {P : α → Prop} {item : Json → Read α} {depth : Nat} {v : Json}
    (hv : v.isSound reader depth = true)
    (h : ∀ inner (u : Json), depth = inner + 1 → u.isSound reader inner = true → Yields (item u) P) :
    Yields (readList item v) fun as => ∀ a ∈ as, P a := by
  cases v with
  | array items =>
    cases depth with
    | zero => cases hv
    | succ inner =>
      have hitems := List.all_eq_true.mp hv
      exact yields_mapM fun u hu => h inner u rfl (hitems u hu)
  | _ => exact yields_malformed

theorem yields_recordMembers {depth : Nat} {v : Json} (hv : v.isSound reader depth = true)
    (fields : List String) :
    Yields (v.recordMembers fields) fun ms => ∃ inner, depth = inner + 1 ∧
      ∀ m ∈ ms, ∀ name, m.1 = some name → m.2.isSound reader inner = true := by
  cases v with
  | object ms =>
    cases depth with
    | zero => cases hv
    | succ inner =>
      refine .pure ⟨inner, rfl, ?_⟩
      intro m hm name _
      exact (Bool.and_eq_true_iff.mp (List.all_eq_true.mp hv m hm)).2
  | array items =>
    cases depth with
    | zero => cases hv
    | succ inner =>
      refine .pure ⟨inner, rfl, ?_⟩
      intro m hm name hname
      rcases List.mem_append.mp hm with hm | hm
      · exact List.all_eq_true.mp hv m.2 (List.of_mem_zip hm).2
      · -- The member that stands for an item too many has no name.
        split at hm
        · rw [List.mem_singleton.mp hm] at hname
          cases hname
        · cases hm
  | _ => exact yields_malformed

theorem yields_readSole {α : Type} {P : α → Prop} {read : Json → Read α}
    (h : ∀ u, Yields (read u) P) (field : String) (v : Json) :
    Yields (readSole field read v) P := by
  rw [readSole]
  refine (yields_true _).bind fun members _ => ?_
  refine (yields_foldlM (Q := fun found => ∀ a ∈ found, P a) ?step ?start).bind
    fun found => yields_ofOption
  case start =>
    intro a ha
    cases ha
  case step =>
    intro m _ found hfound
    split
    · exact yields_once (h m.2)
    · exact yields_skip m hfound

theorem yields_readSole_pos {α : Type} {read : Json → Read α} {depth : Nat} {v : Json}
    (hv : v.isSound reader depth = true) (field : String) :
    Yields (readSole field read v) fun _ => 0 < depth := by
  rw [readSole]
  refine (yields_recordMembers hv [field]).bind ?_
  rintro members ⟨inner, rfl, -⟩ a -
  exact Nat.succ_pos inner

end Json

namespace Term

theorem nesting_le_of_arithmetic {op : Operator} {operands : List Term} {t : Term} {inner : Nat}
    (h : ∀ a ∈ operands, a.nesting < inner) (ht : arithmetic op operands = .ok t) :
    t.nesting ≤ inner + 1 := by
  unfold arithmetic at ht
  split at ht
  · cases ht
    have ha := h _ List.mem_cons_self
    simp only [nesting]
    omega
  · cases ht
    rw [List.forall_mem_cons, List.forall_mem_singleton] at h
    simp only [nesting]
    omega
  · cases ht

theorem nesting_le_of_literal {value : Binary64} {t : Term} {depth : Nat} (hpos : 0 < depth)
    (ht : literal value = .ok t) : t.nesting ≤ depth := by
  unfold literal at ht
  split at ht
  · cases ht
    exact hpos
  · cases ht

theorem yields_untag {inside : Bool} {depth : Nat} {v : Json} (hv : v.isSound reader depth = true) :
    Yields (untag inside v) fun p => p.2.isSound reader depth = true := by
  unfold untag
  split
  · rename_i members
    split
    · rename_i tag fields hpartition
      refine (yields_true _).bind fun kind _ => .pure ?_
      have hfields : members.filter (fun m => !(m.1 == some "type")) = fields := by
        rw [List.partition_eq_filter_filter] at hpartition
        exact congrArg Prod.snd hpartition
      cases depth with
      | zero => cases hv
      | succ inner =>
        rw [Json.isSound_object_succ, List.all_eq_true] at hv ⊢
        intro m hm
        rw [← hfields] at hm
        exact hv m (List.mem_of_mem_filter hm)
    · exact yields_malformed
  · refine (yields_true _).bind fun kind _ => .pure ?_
    cases depth with
    | zero => cases hv
    | succ inner => exact (Bool.and_eq_true_iff.mp hv).2
  · exact yields_malformed

section Operands

variable {operand : Json → Read Term}
  (h : ∀ depth (v : Json), v.isSound reader depth = true →
    Yields (operand v) fun a => a.nesting ≤ depth)

include h

theorem yields_readArithmetic (inside : Bool) {depth : Nat} {v : Json}
    (hv : v.isSound reader depth = true) :
    Yields (readArithmetic inside operand v) fun t => t.nesting ≤ depth := by
  rw [readArithmetic]
  refine (Json.yields_recordMembers hv ["op", "args"]).bind ?_
  rintro members ⟨inner, rfl, hmembers⟩
  refine (yields_foldlM (Q := fun found => ∀ as ∈ found.operands, ∀ a ∈ as, a.nesting < inner)
    ?step ?start).bind ?finish
  case start =>
    intro as has
    cases has
  case step =>
    intro m hm found hfound
    split
    · exact (yields_true _).bind fun op _ => .pure hfound
    · have hargs := hmembers _ hm "args" rfl
      refine (yields_once (Json.yields_readList hargs ?_)).bind fun operands hoperands =>
        .pure hoperands
      rintro depth u rfl hu a ha
      exact Nat.lt_succ_of_le (h depth u hu a ha)
    · exact yields_skip _ hfound
  case finish =>
    intro found hfound
    refine (yields_true _).bind fun op _ => ?_
    refine (yields_ofOption hfound).bind fun operands hoperands => ?_
    exact yields_accept fun t => nesting_le_of_arithmetic hoperands

theorem yields_readFields (inside : Bool) {depth : Nat} {v : Json} (hv : v.isSound reader depth = true)
    (kind : Kind) : Yields (readFields reader inside operand v kind) fun t => t.nesting ≤ depth := by
  cases kind with
  | arithmetic => exact yields_readArithmetic h inside hv
  | var => exact (Json.yields_readSole_pos hv "name").bind fun _ hpos => .pure hpos
  | const => exact (Json.yields_readSole_pos hv "name").bind fun _ hpos => .pure hpos
  | num =>
    refine (Json.yields_readSole_pos hv "value").bind fun value hpos => yields_accept ?_
    intro t ht
    exact nesting_le_of_literal hpos ht

end Operands

theorem yields_readOperand (limit : Nat) {depth : Nat} {v : Json} (hv : v.isSound reader depth = true) :
    Yields (readOperand reader limit v) fun t => t.nesting ≤ depth := by
  induction limit generalizing depth v with
  | zero => exact yields_malformed
  | succ limit ih =>
    rw [readOperand]
    exact (yields_untag hv).bind fun p hp => yields_readFields (fun _ _ => ih) true hp p.1

theorem yields_ofJson (depth : Nat) (v : Json) :
    Yields (ofJson reader depth v) fun t => t.nesting ≤ depth := by
  rw [ofJson]
  split
  · rename_i hv
    have hoperand (n : Nat) (u : Json) (hu : u.isSound reader n = true) :=
      yields_readOperand depth hu
    exact (yields_untag hv).bind fun p hp => yields_readFields hoperand true hp p.1
  · exact yields_malformed

end Term

namespace Comparison

theorem yields_ofJson (v : Json) : Yields (ofJson reader v) fun c => c.nesting ≤ 127 := by
  have hoperand (u : Json) :
      Yields (Term.ofJson reader (Term.bracketLimit - 1) u) fun t => t.nesting ≤ 126 :=
    Term.yields_ofJson (Term.bracketLimit - 1) u
  rw [ofJson]
  refine (yields_true _).bind fun members _ => ?_
  refine (yields_foldlM (Q := fun found =>
    (∀ a ∈ found.left, a.nesting ≤ 126) ∧ ∀ b ∈ found.right, b.nesting ≤ 126)
    ?step ?start).bind ?finish
  case start =>
    constructor
    · intro a ha
      cases ha
    · intro b hb
      cases hb
  case step =>
    intro m _ found hfound
    split
    · exact (yields_true _).bind fun op _ => .pure hfound
    · exact (yields_once (hoperand _)).bind fun left hleft => .pure ⟨hleft, hfound.2⟩
    · exact (yields_once (hoperand _)).bind fun right hright => .pure ⟨hfound.1, hright⟩
    · exact yields_skip _ hfound
  case finish =>
    rintro found ⟨hleft, hright⟩
    refine (yields_true _).bind fun op _ => ?_
    refine (yields_ofOption hleft).bind fun a ha => ?_
    refine (yields_ofOption hright).bind fun b hb => .pure ?_
    exact Nat.succ_le_succ (Nat.max_le.mpr ⟨ha, hb⟩)

end Comparison

theorem Equality.yields_ofJson (v : Json) : Yields (ofJson reader v) fun e => e.nesting ≤ 127 := by
  rw [ofJson]
  refine (Comparison.yields_ofJson v).bind fun c hc => yields_accept fun e he => ?_
  rw [nesting, toComparison_of_ofComparison he]
  exact hc

namespace Substitution

theorem nesting_le_of_entries {s : Substitution} {depth : Nat}
    (h : ∀ e ∈ s.entries, e.2.nesting ≤ depth) : s.nesting ≤ depth + 2 := by
  rw [nesting]
  generalize s.entries = es at h
  induction es with
  | nil => exact Nat.le_add_left 2 depth
  | cons e es ih =>
    rw [List.forall_mem_cons] at h
    have htail := ih h.2
    rw [List.map_cons, List.foldr_cons]
    omega

theorem yields_readBindings (v : Json) : Yields (readBindings reader v) fun s => s.nesting ≤ 127 := by
  cases v with
  | object members =>
    have hbinding (m : Json.Member) : Yields (readBinding reader m) fun e => e.2.nesting ≤ 125 :=
      (yields_true _).bind fun name _ =>
        (Term.yields_ofJson (Term.bracketLimit - 2) m.2).bind fun t ht => .pure ht
    refine (yields_mapM fun m _ => hbinding m).bind fun es hes => .pure ?_
    exact nesting_le_of_entries fun e he => hes e (OrderedMap.mem_of_mem_ofList he)
  | _ => exact yields_malformed

theorem yields_ofJson (v : Json) : Yields (ofJson reader v) fun s => s.nesting ≤ 127 :=
  Json.yields_readSole yields_readBindings "map" v

end Substitution

end Numbers

end PlanComparison
