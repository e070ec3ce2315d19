import PlanComparison.Proofs.TreeReading

namespace PlanComparison

/-- What a caller can do, with terms of type `τ`, expressions `ε` and drafts `δ`. -/
structure Library (τ ε δ : Type) where
  var : String → τ
  const : String → τ
  literal : Binary64 → Option τ
  arithmetic : Operator → List τ → Option τ
  term : τ → ε
  term? : ε → Option τ
  comparison : Comparator → τ → τ → ε
  equality : τ → τ → ε
  operands : ε → List τ
  result : τ → Option τ
  start : Comparator → δ
  withLeft : δ → τ → δ
  withRight : δ → τ → δ
  finish : δ → Option ε
  narrow : ε → Option ε
  widen : ε → Option ε
  apply : OrderedMap τ → ε → ε
  compose : OrderedMap τ → OrderedMap τ → OrderedMap τ
  standardize : Context → ε → ε
  read : Form → String → Option ε
  readBindings : String → Option (OrderedMap τ)

inductive Value (τ ε δ : Type) where
  | expression (e : ε)
  | draft (d : δ)
  | substitution (s : OrderedMap τ)

/-- A call. Its arguments are places among the values given so far. -/
inductive Operation where
  | var (name : String)
  | const (name : String)
  | literal (value : Binary64)
  | arithmetic (op : Operator) (operands : List Nat)
  | comparison (op : Comparator) (x y : Nat)
  | equality (x y : Nat)
  | operand (x position : Nat)
  | result (x : Nat)
  | start (op : Comparator)
  | withLeft (d x : Nat)
  | withRight (d x : Nat)
  | finish (d : Nat)
  | narrow (x : Nat)
  | widen (x : Nat)
  | collect (bindings : List (String × Nat))
  | bind (s : Nat) (name : String) (x : Nat)
  | binding (s : Nat) (name : String)
  | compose (s r : Nat)
  | apply (s x : Nat)
  | standardize (c : Context) (x : Nat)
  | read (form : Form) (text : String)
  | readBindings (text : String)

namespace Value

variable {τ ε δ τ' ε' δ' : Type}

def map (f : τ → τ') (g : ε → ε') (h : δ → δ') : Value τ ε δ → Value τ' ε' δ'
  | expression e => expression (g e)
  | draft d => draft (h d)
  | substitution s => substitution (s.map f)

def expression? : Value τ ε δ → Option ε
  | expression e => some e
  | _ => none

def draft? : Value τ ε δ → Option δ
  | draft d => some d
  | _ => none

def substitution? : Value τ ε δ → Option (OrderedMap τ)
  | substitution s => some s
  | _ => none

end Value

namespace Library

section Sessions

variable {τ ε δ : Type} (L : Library τ ε δ) (vs : List (Value τ ε δ))

def expressionAt (i : Nat) : Option ε := vs[i]?.bind Value.expression?

def draftAt (i : Nat) : Option δ := vs[i]?.bind Value.draft?

def substitutionAt (i : Nat) : Option (OrderedMap τ) := vs[i]?.bind Value.substitution?

def termAt (i : Nat) : Option τ := (expressionAt vs i).bind L.term?

def bindingAt (b : String × Nat) : Option (String × τ) := (L.termAt vs b.2).map (b.1, ·)

def ofTerm (t : τ) : Value τ ε δ := .expression (L.term t)

def perform : Operation → Option (Value τ ε δ)
  | .var name => some (L.ofTerm (L.var name))
  | .const name => some (L.ofTerm (L.const name))
  | .literal value => do return L.ofTerm (← L.literal value)
  | .arithmetic op operands => do
    let operands ← operands.mapM (L.termAt vs)
    return L.ofTerm (← L.arithmetic op operands)
  | .comparison op x y => do
    let left ← L.termAt vs x
    let right ← L.termAt vs y
    return .expression (L.comparison op left right)
  | .equality x y => do
    let left ← L.termAt vs x
    let right ← L.termAt vs y
    return .expression (L.equality left right)
  | .operand x position => do
    let e ← expressionAt vs x
    return L.ofTerm (← (L.operands e)[position]?)
  | .result x => do
    let t ← L.termAt vs x
    return L.ofTerm (← L.result t)
  | .start op => some (.draft (L.start op))
  | .withLeft d x => do
    let d ← draftAt vs d
    let t ← L.termAt vs x
    return .draft (L.withLeft d t)
  | .withRight d x => do
    let d ← draftAt vs d
    let t ← L.termAt vs x
    return .draft (L.withRight d t)
  | .finish d => do
    let d ← draftAt vs d
    return .expression (← L.finish d)
  | .narrow x => do
    let e ← expressionAt vs x
    return .expression (← L.narrow e)
  | .widen x => do
    let e ← expressionAt vs x
    return .expression (← L.widen e)
  | .collect bindings => do
    let bindings ← bindings.mapM (L.bindingAt vs)
    return .substitution (OrderedMap.ofList bindings)
  | .bind s name x => do
    let s ← substitutionAt vs s
    let t ← L.termAt vs x
    return .substitution (s.insert name t)
  | .binding s name => do
    let s ← substitutionAt vs s
    return L.ofTerm (← s.get? name)
  | .compose s r => do
    let s ← substitutionAt vs s
    let r ← substitutionAt vs r
    return .substitution (L.compose s r)
  | .apply s x => do
    let s ← substitutionAt vs s
    let e ← expressionAt vs x
    return .expression (L.apply s e)
  | .standardize c x => do
    let e ← expressionAt vs x
    return .expression (L.standardize c e)
  | .read form text => do return .expression (← L.read form text)
  | .readBindings text => do return .substitution (← L.readBindings text)

def run (ops : List Operation) : List (Value τ ε δ) :=
  ops.foldl (fun vs op => vs ++ (L.perform vs op).toList) []

end Sessions

structure Embeds {τ ε δ τ' ε' δ' : Type} (L : Library τ ε δ) (M : Library τ' ε' δ') (f : τ → τ')
    (g : ε → ε') (h : δ → δ') : Prop where
  var : ∀ name, M.var name = f (L.var name)
  const : ∀ name, M.const name = f (L.const name)
  literal : ∀ value, M.literal value = (L.literal value).map f
  arithmetic : ∀ op ts, M.arithmetic op (ts.map f) = (L.arithmetic op ts).map f
  term : ∀ t, M.term (f t) = g (L.term t)
  term? : ∀ e, M.term? (g e) = (L.term? e).map f
  comparison : ∀ op a b, M.comparison op (f a) (f b) = g (L.comparison op a b)
  equality : ∀ a b, M.equality (f a) (f b) = g (L.equality a b)
  operands : ∀ e, M.operands (g e) = (L.operands e).map f
  result : ∀ t, M.result (f t) = (L.result t).map f
  start : ∀ op, M.start op = h (L.start op)
  withLeft : ∀ d t, M.withLeft (h d) (f t) = h (L.withLeft d t)
  withRight : ∀ d t, M.withRight (h d) (f t) = h (L.withRight d t)
  finish : ∀ d, M.finish (h d) = (L.finish d).map g
  narrow : ∀ e, M.narrow (g e) = (L.narrow e).map g
  widen : ∀ e, M.widen (g e) = (L.widen e).map g
  apply : ∀ s e, M.apply (s.map f) (g e) = g (L.apply s e)
  compose : ∀ s r, M.compose (s.map f) (r.map f) = (L.compose s r).map f
  standardize : ∀ c e, M.standardize c (g e) = g (L.standardize c e)
  read : ∀ form text, M.read form text = (L.read form text).map g
  readBindings : ∀ text, M.readBindings text = (L.readBindings text).map (OrderedMap.map f)

namespace Embeds

variable {τ ε δ τ' ε' δ' : Type} {L : Library τ ε δ} {M : Library τ' ε' δ'} {f : τ → τ'}
  {g : ε → ε'} {h : δ → δ'}

theorem expressionAt_map (vs : List (Value τ ε δ)) (i : Nat) :
    expressionAt (vs.map (Value.map f g h)) i = (expressionAt vs i).map g := by
  rw [expressionAt, expressionAt, List.getElem?_map]
  cases vs[i]? with
  | none => rfl
  | some v => cases v <;> rfl

theorem draftAt_map (vs : List (Value τ ε δ)) (i : Nat) :
    draftAt (vs.map (Value.map f g h)) i = (draftAt vs i).map h := by
  rw [draftAt, draftAt, List.getElem?_map]
  cases vs[i]? with
  | none => rfl
  | some v => cases v <;> rfl

theorem substitutionAt_map (vs : List (Value τ ε δ)) (i : Nat) :
    substitutionAt (vs.map (Value.map f g h)) i = (substitutionAt vs i).map (OrderedMap.map f) := by
  rw [substitutionAt, substitutionAt, List.getElem?_map]
  cases vs[i]? with
  | none => rfl
  | some v => cases v <;> rfl

variable (hLM : Embeds L M f g h) (vs : List (Value τ ε δ))

include hLM

theorem termAt_map (i : Nat) :
    M.termAt (vs.map (Value.map f g h)) i = (L.termAt vs i).map f := by
  rw [termAt, termAt, expressionAt_map]
  cases expressionAt vs i with
  | none => rfl
  | some e => exact hLM.term? e

theorem bindingAt_map (b : String × Nat) :
    M.bindingAt (vs.map (Value.map f g h)) b =
      (L.bindingAt vs b).map fun e => (e.1, f e.2) := by
  rw [bindingAt, bindingAt, hLM.termAt_map vs]
  cases L.termAt vs b.2 <;> rfl

theorem mapM_termAt (xs : List Nat) :
    xs.mapM (M.termAt (vs.map (Value.map f g h))) = (xs.mapM (L.termAt vs)).map (List.map f) :=
  mapM_map (hLM.termAt_map vs) xs

theorem mapM_bindingAt (bs : List (String × Nat)) :
    bs.mapM (M.bindingAt (vs.map (Value.map f g h))) =
      (bs.mapM (L.bindingAt vs)).map (List.map fun e => (e.1, f e.2)) :=
  mapM_map (hLM.bindingAt_map vs) bs

theorem ofTerm_map (t : τ) : M.ofTerm (f t) = (L.ofTerm t : Value τ ε δ).map f g h :=
  congrArg Value.expression (hLM.term t)

theorem perform_map (op : Operation) :
    M.perform (vs.map (Value.map f g h)) op = (L.perform vs op).map (Value.map f g h) := by
  have hterm := hLM.termAt_map vs
  have hexpression := expressionAt_map (f := f) (g := g) (h := h) vs
  have hsubstitution := substitutionAt_map (f := f) (g := g) (h := h) vs
  have hdraft := draftAt_map (f := f) (g := g) (h := h) vs
  have hof (t : τ) : some (M.ofTerm (f t)) = some ((L.ofTerm t).map f g h) :=
    congrArg some (hLM.ofTerm_map t)
  cases op with
  | var name =>
    rw [perform, hLM.var]
    exact hof _
  | const name =>
    rw [perform, hLM.const]
    exact hof _
  | literal value => exact bind_eq_map_bind (hLM.literal value) hof
  | arithmetic op operands =>
    refine bind_eq_map_bind (hLM.mapM_termAt vs operands) fun ts => ?_
    exact bind_eq_map_bind (hLM.arithmetic op ts) hof
  | comparison op x y =>
    refine bind_eq_map_bind (hterm x) fun left => ?_
    refine bind_eq_map_bind (hterm y) fun right => ?_
    rw [hLM.comparison]
    rfl
  | equality x y =>
    refine bind_eq_map_bind (hterm x) fun left => ?_
    refine bind_eq_map_bind (hterm y) fun right => ?_
    rw [hLM.equality]
    rfl
  | operand x position =>
    refine bind_eq_map_bind (hexpression x) fun e => ?_
    refine bind_eq_map_bind ?_ hof
    rw [hLM.operands, List.getElem?_map]
    rfl
  | result x =>
    refine bind_eq_map_bind (hterm x) fun t => ?_
    exact bind_eq_map_bind (hLM.result t) hof
  | start op =>
    rw [perform, hLM.start]
    rfl
  | withLeft d x =>
    refine bind_eq_map_bind (hdraft d) fun d => ?_
    refine bind_eq_map_bind (hterm x) fun t => ?_
    rw [hLM.withLeft]
    rfl
  | withRight d x =>
    refine bind_eq_map_bind (hdraft d) fun d => ?_
    refine bind_eq_map_bind (hterm x) fun t => ?_
    rw [hLM.withRight]
    rfl
  | finish d =>
    refine bind_eq_map_bind (hdraft d) fun d => ?_
    exact bind_eq_map_bind (hLM.finish d) fun e => rfl
  | narrow x =>
    refine bind_eq_map_bind (hexpression x) fun e => ?_
    exact bind_eq_map_bind (hLM.narrow e) fun e => rfl
  | widen x =>
    refine bind_eq_map_bind (hexpression x) fun e => ?_
    exact bind_eq_map_bind (hLM.widen e) fun e => rfl
  | collect bindings =>
    refine bind_eq_map_bind (hLM.mapM_bindingAt vs bindings) fun bs => ?_
    rw [← OrderedMap.map_ofList]
    rfl
  | bind s name x =>
    refine bind_eq_map_bind (hsubstitution s) fun s => ?_
    refine bind_eq_map_bind (hterm x) fun t => ?_
    rw [← OrderedMap.map_insert]
    rfl
  | binding s name =>
    refine bind_eq_map_bind (hsubstitution s) fun s => ?_
    exact bind_eq_map_bind (OrderedMap.get?_map f s name) hof
  | compose s r =>
    refine bind_eq_map_bind (hsubstitution s) fun s => ?_
    refine bind_eq_map_bind (hsubstitution r) fun r => ?_
    rw [hLM.compose]
    rfl
  | apply s x =>
    refine bind_eq_map_bind (hsubstitution s) fun s => ?_
    refine bind_eq_map_bind (hexpression x) fun e => ?_
    rw [hLM.apply]
    rfl
  | standardize c x =>
    refine bind_eq_map_bind (hexpression x) fun e => ?_
    rw [hLM.standardize]
    rfl
  | read form text => exact bind_eq_map_bind (hLM.read form text) fun e => rfl
  | readBindings text => exact bind_eq_map_bind (hLM.readBindings text) fun s => rfl

theorem run_map (ops : List Operation) : M.run ops = (L.run ops).map (Value.map f g h) := by
  have hfrom (vs : List (Value τ ε δ)) :
      ops.foldl (fun vs op => vs ++ (M.perform vs op).toList) (vs.map (Value.map f g h)) =
        (ops.foldl (fun vs op => vs ++ (L.perform vs op).toList) vs).map (Value.map f g h) := by
    induction ops generalizing vs with
    | nil => rfl
    | cons op ops ih =>
      rw [List.foldl_cons, List.foldl_cons, ← ih, List.map_append, hLM.perform_map vs op,
        Option.toList_map]
  exact hfrom []

end Embeds

end Library

end PlanComparison
