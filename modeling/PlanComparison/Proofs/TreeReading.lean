import PlanComparison.Json.Comparison
import PlanComparison.Json.Substitution
import PlanComparison.Proofs.TreeExpression

namespace PlanComparison

open Read

inductive Form where
  | term
  | bare (kind : Term.Kind)
  | comparison
  | equality

namespace Tree

structure Arithmetic where
  op : Option Operator
  operands : Option (List Tree)

def readArithmetic (inside : Bool) (operand : Json → Read Tree) (v : Json) : Read Tree := do
  let members ← v.recordMembers ["op", "args"]
  let found ← members.foldlM (fun (found : Arithmetic) (m : Json.Member) =>
    match m with
    | (some "op", v) => do
      return { found with op := ← once found.op (Operator.ofJson inside) v }
    | (some "args", v) => do
      return { found with operands := ← once found.operands (Json.readList operand) v }
    | m => Json.skip found m) ⟨none, none⟩
  accept (arithmetic (← ofOption found.op) (← ofOption found.operands))

section Numbers

variable (reader : NumberReader)

def readFields (inside : Bool) (operand : Json → Read Tree) (v : Json) : Term.Kind → Read Tree
  | .var => return var (← v.readSole "name" Json.readString)
  | .const => return const (← v.readSole "name" Json.readString)
  | .num => do accept (literal (← v.readSole "value" (Json.readNumber reader)))
  | .arithmetic => readArithmetic inside operand v

def readOperand : Nat → Json → Read Tree
  | 0, _ => malformed
  | depth + 1, v => do
    let (kind, fields) ← Term.untag true v
    readFields reader true (readOperand depth) fields kind

def ofJson (depth : Nat) (v : Json) : Read Tree :=
  if v.isSound reader depth then do
    let (kind, fields) ← Term.untag false v
    readFields reader true (readOperand reader depth) fields kind
  else malformed

def ofBareJson (kind : Term.Kind) (v : Json) : Read Tree :=
  readFields reader false (ofJson reader (Term.bracketLimit - 2)) v kind

namespace Comparison

structure Fields where
  op : Option Comparator
  left : Option Tree
  right : Option Tree

def ofJson (v : Json) : Read Comparison := do
  let operand := Tree.ofJson reader (Term.bracketLimit - 1)
  let members ← v.recordMembers ["op", "arg1", "arg2"]
  let found ← members.foldlM (fun (found : Fields) (m : Json.Member) =>
    match m with
    | (some "op", v) => do return { found with op := ← once found.op Comparator.ofJson v }
    | (some "arg1", v) => do return { found with left := ← once found.left operand v }
    | (some "arg2", v) => do return { found with right := ← once found.right operand v }
    | m => Json.skip found m) ⟨none, none, none⟩
  return ⟨← ofOption found.op, ← ofOption found.left, ← ofOption found.right⟩

end Comparison

def readEquality (v : Json) : Read Comparison := do
  let c ← Comparison.ofJson reader v
  if c.op = .equal then return c else malformed

def readBinding (m : Json.Member) : Read (String × Tree) :=
  return (← ofOption m.1, ← ofJson reader (Term.bracketLimit - 2) m.2)

def readBindings : Json → Read (OrderedMap Tree)
  | .object members => return OrderedMap.ofList (← members.mapM (readBinding reader))
  | _ => malformed

def readSubstitution (v : Json) : Read (OrderedMap Tree) :=
  v.readSole "map" (readBindings reader)

def Expression.read (form : Form) (text : String) : Option Expression :=
  match form with
  | .term => (Json.readText (ofJson reader Term.bracketLimit) text).toOption.map term
  | .bare kind => (Json.readText (ofBareJson reader kind) text).toOption.map term
  | .comparison => (Json.readText (Comparison.ofJson reader) text).toOption.map comparison
  | .equality => (Json.readText (readEquality reader) text).toOption.map equality

end Numbers

end Tree

def Expression.read (reader : NumberReader) (form : Form) (text : String) : Option Expression :=
  match form with
  | .term => (Term.read reader text).toOption.map term
  | .bare kind => (Term.readBare reader kind text).toOption.map term
  | .comparison => (Comparison.read reader text).toOption.map comparison
  | .equality => (Equality.read reader text).toOption.map equality

theorem bind_eq_map_bind {m : Type → Type} [Monad m] [LawfulMonad m] {α β σ τ : Type} {f : α → β}
    {g : σ → τ} {x : m σ} {y : m τ} {k : σ → m α} {k' : τ → m β} (hx : y = g <$> x)
    (hk : ∀ a, k' (g a) = f <$> k a) : y >>= k' = f <$> (x >>= k) := by
  rw [hx, bind_map_left, map_bind]
  exact bind_congr hk

theorem mapM_map {m : Type → Type} [Monad m] [LawfulMonad m] {α β γ : Type} {f : α → β}
    {item : γ → m α} {item' : γ → m β} (h : ∀ v, item' v = f <$> item v) (vs : List γ) :
    vs.mapM item' = List.map f <$> vs.mapM item := by
  induction vs with
  | nil => simp
  | cons v vs ih => simp [h, ih]

theorem foldlM_map {m : Type → Type} [Monad m] [LawfulMonad m] {σ τ γ : Type} (g : σ → τ)
    {step : σ → γ → m σ} {step' : τ → γ → m τ} (h : ∀ a v, step' (g a) v = g <$> step a v)
    (a : σ) (vs : List γ) : vs.foldlM step' (g a) = g <$> vs.foldlM step a := by
  induction vs generalizing a with
  | nil => simp
  | cons v vs ih => simp [h, ih]

theorem toOption_map {ε α β : Type} (f : α → β) (x : Except ε α) :
    (x.map f).toOption = x.toOption.map f := by
  cases x <;> rfl

namespace Read

variable {α β σ τ : Type} {f : α → β} {r : Json → Read α} {r' : Json → Read β}

theorem ofOption_map (f : α → β) (x : Option α) : ofOption (x.map f) = f <$> ofOption x := by
  cases x <;> rfl

theorem once_map (h : ∀ v, r' v = f <$> r v) (slot : Option α) (v : Json) :
    once (slot.map f) r' v = Option.map f <$> once slot r v := by
  cases slot with
  | none => simp [once, h]
  | some a => rfl

theorem skip_map (g : σ → τ) (found : σ) (m : Json.Member) :
    Json.skip (g found) m = g <$> Json.skip found m := by
  unfold Json.skip
  split <;> rfl

theorem readList_map (h : ∀ v, r' v = f <$> r v) (v : Json) :
    Json.readList r' v = List.map f <$> Json.readList r v := by
  cases v with
  | array items => exact mapM_map h items
  | _ => rfl

theorem readSole_map (h : ∀ v, r' v = f <$> r v) (field : String) (v : Json) :
    Json.readSole field r' v = f <$> Json.readSole field r v := by
  rw [Json.readSole, Json.readSole, map_bind]
  apply bind_congr
  intro members
  refine bind_eq_map_bind (foldlM_map (Option.map f) ?_ none members) (ofOption_map f)
  intro found m
  split
  · exact once_map h found m.2
  · exact skip_map (Option.map f) found m

theorem toOption_readText (h : ∀ v, (r' v).toOption = (r v).toOption.map f) (text : String) :
    (Json.readText r' text).toOption = (Json.readText r text).toOption.map f := by
  rw [Json.readText, Json.readText]
  obtain ⟨v, rest⟩ := Json.parse text
  have hv := h v
  change (r' v >>= fun b => if rest.isEmpty then return b else malformed).toOption =
    (r v >>= fun a => if rest.isEmpty then return a else malformed).toOption.map f
  cases hr : r v with
  | error e =>
    rw [hr] at hv
    cases hr' : r' v with
    | error e' => rfl
    | ok b =>
      rw [hr'] at hv
      cases hv
  | ok a =>
    rw [hr] at hv
    cases hr' : r' v with
    | error e' =>
      rw [hr'] at hv
      cases hv
    | ok b =>
      rw [hr'] at hv
      cases hv
      change (if rest.isEmpty then Except.ok (f a) else malformed).toOption =
        (if rest.isEmpty then Except.ok a else malformed).toOption.map f
      split <;> rfl

theorem readText_map (h : ∀ v, r' v = f <$> r v) (text : String) :
    Json.readText r' text = f <$> Json.readText r text := by
  rw [Json.readText, Json.readText]
  obtain ⟨v, rest⟩ := Json.parse text
  refine bind_eq_map_bind (h v) fun a => ?_
  cases rest.isEmpty <;> rfl

theorem toOption_readText_of_map (h : ∀ v, r' v = f <$> r v) (text : String) :
    (Json.readText r' text).toOption = (Json.readText r text).toOption.map f := by
  rw [readText_map h]
  exact toOption_map f _

end Read

namespace Term

def Arithmetic.toTree (x : Arithmetic) : Tree.Arithmetic :=
  ⟨x.op, x.operands.map (List.map Term.toTree)⟩

theorem accept_arithmetic_toTree (op : Operator) (operands : List Term) :
    accept (Tree.arithmetic op (operands.map toTree)) =
      toTree <$> accept (arithmetic op operands) := by
  rw [arithmetic_toTree]
  cases arithmetic op operands <;> rfl

theorem accept_literal_toTree (value : Binary64) :
    accept (Tree.literal value) = toTree <$> accept (literal value) := by
  rw [literal_toTree]
  cases literal value <;> rfl

variable {reader : NumberReader}

section Operands

variable {operand : Json → Read Term} {operand' : Json → Read Tree}
  (h : ∀ v, operand' v = toTree <$> operand v)

include h

theorem readArithmetic_toTree (inside : Bool) (v : Json) :
    Tree.readArithmetic inside operand' v = toTree <$> readArithmetic inside operand v := by
  rw [Tree.readArithmetic, readArithmetic, map_bind]
  apply bind_congr
  intro members
  refine bind_eq_map_bind (foldlM_map Arithmetic.toTree ?_ ⟨none, none⟩ members) ?_
  · intro found m
    split
    · simp [Arithmetic.toTree]
    · simp [Arithmetic.toTree, once_map (readList_map h)]
    · simp [skip_map]
  · intro found
    simp [Arithmetic.toTree, ofOption_map, accept_arithmetic_toTree]

theorem readFields_toTree (inside : Bool) (v : Json) (kind : Kind) :
    Tree.readFields reader inside operand' v kind =
      toTree <$> readFields reader inside operand v kind := by
  cases kind with
  | var => simp [Tree.readFields, readFields, toTree]
  | const => simp [Tree.readFields, readFields, toTree]
  | num =>
    rw [Tree.readFields, readFields, map_bind]
    exact bind_congr accept_literal_toTree
  | arithmetic => exact readArithmetic_toTree h inside v

end Operands

theorem readOperand_toTree (depth : Nat) (v : Json) :
    Tree.readOperand reader depth v = toTree <$> readOperand reader depth v := by
  induction depth generalizing v with
  | zero => rfl
  | succ depth ih =>
    rw [Tree.readOperand, readOperand, map_bind]
    exact bind_congr fun p => readFields_toTree ih true p.2 p.1

theorem ofJson_toTree (depth : Nat) (v : Json) :
    Tree.ofJson reader depth v = toTree <$> ofJson reader depth v := by
  rw [Tree.ofJson, ofJson]
  split
  · rw [map_bind]
    exact bind_congr fun p => readFields_toTree (readOperand_toTree depth) true p.2 p.1
  · rfl

end Term

section Numbers

variable {reader : NumberReader}

namespace Comparison

def Fields.toTree (x : Fields) : Tree.Comparison.Fields :=
  ⟨x.op, x.left.map Term.toTree, x.right.map Term.toTree⟩

theorem ofJson_toTree (v : Json) :
    Tree.Comparison.ofJson reader v = toTree <$> ofJson reader v := by
  have hoperand := once_map (@Term.ofJson_toTree reader (Term.bracketLimit - 1))
  rw [Tree.Comparison.ofJson, ofJson, map_bind]
  apply bind_congr
  intro members
  refine bind_eq_map_bind (foldlM_map Fields.toTree ?_ ⟨none, none, none⟩ members) ?_
  · intro found m
    split
    · simp [Fields.toTree]
    · simp [Fields.toTree, hoperand]
    · simp [Fields.toTree, hoperand]
    · simp [skip_map]
  · intro found
    simp [Fields.toTree, ofOption_map, toTree]

end Comparison

/-- Both refuse what is no equality, though not with the same error. -/
theorem Equality.toOption_ofJson_toTree (v : Json) :
    (Tree.readEquality reader v).toOption = (ofJson reader v).toOption.map toTree := by
  rw [Tree.readEquality, ofJson, Comparison.ofJson_toTree]
  cases Comparison.ofJson reader v with
  | error e => rfl
  | ok c =>
    change (if c.op = .equal then return c.toTree else malformed : Read _).toOption =
      (accept (ofComparison c)).toOption.map toTree
    rw [ofComparison]
    obtain ⟨op, a, b⟩ := c
    by_cases hop : op = .equal
    · subst hop
      rfl
    · rw [if_neg hop, if_neg hop]
      rfl

namespace Substitution

theorem readBinding_toTree (m : Json.Member) :
    Tree.readBinding reader m = (fun e => (e.1, e.2.toTree)) <$> readBinding reader m := by
  simp [Tree.readBinding, readBinding, Term.ofJson_toTree]

theorem readBindings_toTree (v : Json) :
    Tree.readBindings reader v = toTree <$> readBindings reader v := by
  cases v with
  | object members =>
    simp [Tree.readBindings, readBindings, mapM_map readBinding_toTree, toTree,
      OrderedMap.map_ofList]
  | _ => rfl

theorem ofJson_toTree (v : Json) :
    Tree.readSubstitution reader v = toTree <$> ofJson reader v :=
  readSole_map readBindings_toTree "map" v

end Substitution

theorem Term.ofBareJson_toTree (kind : Kind) (v : Json) :
    Tree.ofBareJson reader kind v =
      toTree <$> readFields reader false (ofJson reader (bracketLimit - 2)) v kind :=
  readFields_toTree (ofJson_toTree (bracketLimit - 2)) false v kind

theorem Expression.read_toTree (form : Form) (text : String) :
    Tree.Expression.read reader form text = (read reader form text).map toTree := by
  cases form with
  | term =>
    rw [Tree.Expression.read, read, Term.read,
      toOption_readText_of_map (Term.ofJson_toTree Term.bracketLimit), Option.map_map,
      Option.map_map]
    rfl
  | bare kind =>
    rw [Tree.Expression.read, read, Term.readBare,
      toOption_readText_of_map (Term.ofBareJson_toTree kind), Option.map_map, Option.map_map]
    rfl
  | comparison =>
    rw [Tree.Expression.read, read, Comparison.read,
      toOption_readText_of_map Comparison.ofJson_toTree, Option.map_map, Option.map_map]
    rfl
  | equality =>
    rw [Tree.Expression.read, read, Equality.read,
      toOption_readText Equality.toOption_ofJson_toTree, Option.map_map, Option.map_map]
    rfl

end Numbers

end PlanComparison
