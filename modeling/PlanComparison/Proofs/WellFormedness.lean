import PlanComparison.Proofs.Session

namespace PlanComparison

open PlanComparison.Tree (Failure)

namespace Library

variable (reader : NumberReader)

def terms : Library Term Expression Draft where
  var := .var
  const := .const
  literal value := (Term.literal value).toOption
  arithmetic op operands := (Term.arithmetic op operands).toOption
  term := .term
  term? := Expression.term?
  comparison op a b := .comparison ⟨op, a, b⟩
  equality a b := .equality ⟨a, b⟩
  operands := Expression.operands
  result t := t.evaluate.toOption.map .num
  start := Draft.start
  withLeft := Draft.withLeft
  withRight := Draft.withRight
  finish d := d.finish.toOption.map .comparison
  narrow := Expression.narrow
  widen := Expression.widen
  apply := Expression.apply
  compose := Substitution.compose
  standardize c e := e.standardize.result c
  read := Expression.read reader
  readBindings text := (Substitution.read reader text).toOption

def trees : Library Tree Tree.Expression Tree.Draft where
  var := .var
  const := .const
  literal value := (Tree.literal value).toOption
  arithmetic op operands := (Tree.arithmetic op operands).toOption
  term := .term
  term? := Tree.Expression.term?
  comparison op a b := .comparison ⟨op, a, b⟩
  equality a b := .equality ⟨.equal, a, b⟩
  operands := Tree.Expression.operands
  result t := t.evaluate.toOption.map .num
  start := Tree.Draft.start
  withLeft := Tree.Draft.withLeft
  withRight := Tree.Draft.withRight
  finish d := d.finish.toOption.map .comparison
  narrow := Tree.Expression.narrow
  widen := Tree.Expression.widen
  apply := Tree.Expression.apply
  compose := Tree.compose
  standardize c e := e.standardize.result c
  read := Tree.Expression.read reader
  readBindings text := (Json.readText (Tree.readSubstitution reader) text).toOption

end Library

theorem Library.embeds_trees (reader : NumberReader) :
    Embeds (terms reader) (trees reader) Term.toTree Expression.toTree Draft.toTree where
  var _ := rfl
  const _ := rfl
  literal value := by
    simp only [trees, terms, Term.literal_toTree, toOption_map]
  arithmetic op ts := by
    simp only [trees, terms, Term.arithmetic_toTree, toOption_map]
  term _ := rfl
  term? e := by cases e <;> rfl
  comparison _ _ _ := rfl
  equality _ _ := rfl
  operands := Expression.operands_toTree
  result t := by
    simp only [trees, terms, Term.evaluate_toTree]
    cases t.evaluate <;> rfl
  start _ := rfl
  withLeft _ _ := rfl
  withRight _ _ := rfl
  finish d := by
    simp only [trees, terms, Draft.finish_toTree, toOption_map, Option.map_map]
    rfl
  narrow := Expression.narrow_toTree
  widen e := by cases e <;> rfl
  apply := Expression.apply_toTree
  compose := Substitution.compose_toTree
  standardize c e := by
    simp only [trees, terms, Expression.standardize_toTree, Renaming.result_map]
  read := Expression.read_toTree
  readBindings text := Read.toOption_readText_of_map Substitution.ofJson_toTree text

def NoInvalidArgument {α : Type} (r : Except Error α) : Prop :=
  ∀ e, r = .error e → e.kind ≠ .invalidArgument

namespace NoInvalidArgument

variable {α β : Type} {r : Except Error α}

theorem ok (a : α) : NoInvalidArgument (.ok a) := by
  intro e he
  cases he

theorem error {e : Error} (h : e.kind ≠ .invalidArgument) :
    NoInvalidArgument (.error e : Except Error α) := by
  intro e' he
  cases he
  exact h

theorem of_calculated (h : Calculated r) : NoInvalidArgument r := by
  rcases h with ⟨a, rfl⟩ | ⟨e, rfl, hdiv | hfin⟩
  · exact .ok a
  · exact .error (by simp [hdiv])
  · exact .error (by simp [hfin])

theorem bind (h : NoInvalidArgument r) {f : α → Except Error β}
    (hf : ∀ a, NoInvalidArgument (f a)) : NoInvalidArgument (r >>= f) := by
  cases r with
  | error e => exact .error (h e rfl)
  | ok a => exact hf a

theorem map (h : NoInvalidArgument r) (f : α → β) : NoInvalidArgument (r.map f) :=
  h.bind fun a => .ok (f a)

end NoInvalidArgument

theorem Term.noInvalidArgument (t : Term) : NoInvalidArgument t.evaluate := by
  induction t with
  | var name => exact .error Error.Kind.noConfusion
  | const name => exact .error Error.Kind.noConfusion
  | num x => exact .ok x
  | minus a ih => exact ih.map Number.neg
  | binary op a b iha ihb =>
    exact iha.bind fun x => ihb.bind fun y => .of_calculated (calculated_combine _ op x y)

theorem Comparison.noInvalidArgument (c : Comparison) : NoInvalidArgument c.evaluate.value := by
  have hforetold := c.foretold_evaluate
  cases hc : c.isEvaluable with
  | true => exact .of_calculated (hforetold.calculated hc)
  | false =>
    rw [hforetold.refused hc]
    exact .error Error.Kind.noConfusion

theorem Expression.noInvalidArgument (e : Expression) : NoInvalidArgument e.evaluate := by
  cases e with
  | term t => exact t.noInvalidArgument.map Sum.inl
  | comparison c => exact c.noInvalidArgument.map Sum.inr
  | equality e => exact e.toComparison.noInvalidArgument.map Sum.inr

namespace Value

def toTree : Value Term Expression Draft → Value Tree Tree.Expression Tree.Draft :=
  map Term.toTree Expression.toTree Draft.toTree

def WellFormed : Value Tree Tree.Expression Tree.Draft → Prop
  | expression e => e.WellFormed
  | draft d => ∀ t, d.left = some t ∨ d.right = some t → t.WellFormed
  | substitution s => ∀ b ∈ s.entries, b.2.WellFormed

theorem wellFormed_toTree (v : Value Term Expression Draft) : v.toTree.WellFormed := by
  cases v with
  | expression e => exact e.wellFormed_toTree
  | draft d =>
    intro t ht
    rcases ht with ht | ht
    · obtain ⟨u, _, rfl⟩ := Option.map_eq_some_iff.mp ht
      exact u.wellFormed_toTree
    · obtain ⟨u, _, rfl⟩ := Option.map_eq_some_iff.mp ht
      exact u.wellFormed_toTree
  | substitution s =>
    intro b hb
    rw [OrderedMap.entries_map] at hb
    obtain ⟨e, _, rfl⟩ := List.mem_map.mp hb
    exact e.2.wellFormed_toTree

end Value

/-- An operator with the wrong number of operands would fail as an invalid argument. -/
theorem Library.run_trees_wellFormed (reader : NumberReader) (ops : List Operation) :
    (trees reader).run ops = ((terms reader).run ops).map Value.toTree ∧
      (∀ v ∈ (trees reader).run ops, v.WellFormed) ∧
      ∀ e, .expression e ∈ (trees reader).run ops →
        (∀ x, e.evaluate = .ok (.inl x) → x.isFinite = true) ∧
          ∀ failure, e.evaluate = .error failure → failure.kind ≠ .invalidArgument := by
  have hrun : (trees reader).run ops = ((terms reader).run ops).map Value.toTree :=
    (embeds_trees reader).run_map ops
  refine ⟨hrun, ?_, ?_⟩
  · intro v hv
    rw [hrun] at hv
    obtain ⟨w, _, rfl⟩ := List.mem_map.mp hv
    exact w.wellFormed_toTree
  · intro e he
    rw [hrun] at he
    obtain ⟨w, _, hw⟩ := List.mem_map.mp he
    cases w with
    | draft d => cases hw
    | substitution s => cases hw
    | expression e =>
      cases hw
      have hinvalid := e.noInvalidArgument
      rw [e.evaluate_toTree]
      refine ⟨fun x hx => ?_, fun failure hfailure => ?_⟩
      · obtain ⟨y, _, hy⟩ := Failure.report_eq_ok hx
        cases y with
        | inl y =>
          cases hy
          rfl
        | inr b => cases hy
      · obtain ⟨e', he', rfl⟩ := Failure.report_eq_error hfailure
        exact hinvalid e' he'

theorem Library.run_trees_wellFormed_negation :
    let zero : Number := ⟨false, 0, by decide⟩
    let ops : List Operation :=
      [.literal .nan, .var "?x", .arithmetic (.binary .add) [0], .literal (.finite zero),
        .collect [("?x", 1)], .arithmetic .minus [0], .apply 2 3]
    let e : Tree.Expression := .term (.node .minus [.num (.finite zero)])
    .expression e ∈ (trees .scaling).run ops ∧ e.WellFormed ∧
      ∀ failure, e.evaluate = .error failure → failure.kind ≠ .invalidArgument := by
  intro zero ops e
  obtain ⟨hrun, hwellFormed, hevaluate⟩ := run_trees_wellFormed .scaling ops
  have hmem : .expression e ∈ (trees .scaling).run ops := by
    rw [hrun]
    exact .tail _ (.tail _ (.tail _ (.tail _ (.head _))))
  exact ⟨hmem, hwellFormed _ hmem, (hevaluate e hmem).2⟩

end PlanComparison
