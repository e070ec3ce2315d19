import PlanComparison.Comparison.Draft
import PlanComparison.Proofs.Evaluability
import PlanComparison.Proofs.Tree

namespace PlanComparison

namespace Tree

structure Comparison where
  op : Comparator
  left : Tree
  right : Tree

namespace Comparison

def text (c : Comparison) : String :=
  "(" ++ c.op.symbol ++ " " ++ c.left.text ++ " " ++ c.right.text ++ ")"

def isNumeric (c : Comparison) : Bool := c.left.isNumeric && c.right.isNumeric

def apply (s : OrderedMap Tree) (c : Comparison) : Comparison :=
  ⟨c.op, c.left.apply s, c.right.apply s⟩

def standardize (c : Comparison) : Renaming Comparison := do
  let left ← c.left.standardize
  let right ← c.right.standardize
  return ⟨c.op, left, right⟩

def reduce (c : Comparison) : Except Failure (Binary64 × Binary64) := do
  let x ← c.left.evaluate
  let y ← c.right.evaluate
  return (x, y)

def refuse (c : Comparison) : Except Failure Bool :=
  .error ⟨.notEvaluable, "comparison function " ++ c.text⟩

def equalityVerdict (c : Comparison) : Except Failure Bool :=
  if c.isNumeric then c.reduce.map fun p => Comparator.equal.extended p.1 p.2
  else
    match c.left, c.right with
    | .const a, .const b => .ok (a == b)
    | _, _ => c.refuse

def orderVerdict (c : Comparison) : Except Failure Bool :=
  if c.isNumeric then c.reduce.map fun p => c.op.extended p.1 p.2 else c.refuse

def evaluate (c : Comparison) : Except Failure Bool :=
  match c.op with
  | .equal => c.equalityVerdict
  | .notEqual => c.equalityVerdict.map not
  | _ => c.orderVerdict

end Comparison

structure Draft where
  op : Comparator
  left : Option Tree
  right : Option Tree

namespace Draft

def start (op : Comparator) : Draft := ⟨op, none, none⟩

def withLeft (d : Draft) (t : Tree) : Draft := { d with left := some t }

def withRight (d : Draft) (t : Tree) : Draft := { d with right := some t }

def finish (d : Draft) : Except Error Comparison :=
  match d.left, d.right with
  | none, _ => .error (.missingFirst d.op)
  | some _, none => .error (.missingSecond d.op)
  | some a, some b => .ok ⟨d.op, a, b⟩

end Draft

inductive Expression where
  | term (t : Tree)
  | comparison (c : Comparison)
  | equality (c : Comparison)

namespace Expression

def term? : Expression → Option Tree
  | term t => some t
  | _ => none

def operands : Expression → List Tree
  | term t => t.operands
  | comparison c => [c.left, c.right]
  | equality c => [c.left, c.right]

def apply (s : OrderedMap Tree) : Expression → Expression
  | term t => term (t.apply s)
  | comparison c => comparison (c.apply s)
  | equality c => equality (c.apply s)

def standardize : Expression → Renaming Expression
  | term t => return term (← t.standardize)
  | comparison c => return comparison (← c.standardize)
  | equality c => return equality (← c.standardize)

def narrow : Expression → Option Expression
  | comparison c => if c.op = .equal then some (equality c) else none
  | _ => none

def widen : Expression → Option Expression
  | equality c => some (comparison c)
  | _ => none

def evaluate : Expression → Except Failure (Binary64 ⊕ Bool)
  | term t => t.evaluate.map .inl
  | comparison c => c.evaluate.map .inr
  | equality c => c.evaluate.map .inr

inductive WellFormed : Expression → Prop
  | term {t : Tree} (h : t.WellFormed) : WellFormed (.term t)
  | comparison {c : Comparison} (hleft : c.left.WellFormed) (hright : c.right.WellFormed) :
    WellFormed (.comparison c)
  | equality {c : Comparison} (hop : c.op = .equal) (hleft : c.left.WellFormed)
    (hright : c.right.WellFormed) : WellFormed (.equality c)

end Expression

end Tree

open PlanComparison.Tree (Failure)

namespace Comparison

def toTree (c : Comparison) : Tree.Comparison := ⟨c.op, c.left.toTree, c.right.toTree⟩

theorem text_toTree (c : Comparison) : c.toTree.text = c.text := by
  simp [toTree, Tree.Comparison.text, text, Term.text_toTree]

theorem isNumeric_toTree (c : Comparison) : c.toTree.isNumeric = c.isNumeric := by
  simp [toTree, Tree.Comparison.isNumeric, isNumeric, Term.isNumeric_toTree]

theorem apply_toTree (s : Substitution) (c : Comparison) :
    c.toTree.apply s.toTree = (c.apply s).toTree := by
  simp [toTree, Tree.Comparison.apply, apply, Term.apply_toTree]

theorem standardize_toTree (c : Comparison) :
    c.toTree.standardize = toTree <$> c.standardize := by
  simp [toTree, Tree.Comparison.standardize, standardize, Term.standardize_toTree]

theorem refuse_toTree (c : Comparison) :
    c.toTree.refuse = Failure.report id c.refuse.value := by
  rw [Tree.Comparison.refuse, text_toTree]
  rfl

theorem reduce_toTree (c : Comparison) :
    c.toTree.reduce = Failure.report (Prod.map .finite .finite) c.reduce := by
  rw [toTree, Tree.Comparison.reduce, Term.evaluate_toTree, Term.evaluate_toTree, reduce]
  cases c.left.evaluate with
  | error e => rfl
  | ok x =>
    cases c.right.evaluate with
    | error e => rfl
    | ok y => rfl

theorem map_reduce_toTree (c : Comparison) (op : Comparator) :
    (c.toTree.reduce.map fun p => op.extended p.1 p.2) =
      Failure.report id (c.reduce.map fun p => op.holds p.1 p.2) := by
  rw [reduce_toTree]
  cases c.reduce with
  | error e => rfl
  | ok p => exact congrArg Except.ok (op.extended_finite p.1 p.2)

theorem equalityVerdict_toTree (c : Comparison) :
    c.toTree.equalityVerdict = Failure.report id c.equalityVerdict.value := by
  rw [Tree.Comparison.equalityVerdict, isNumeric_toTree, map_reduce_toTree, refuse_toTree,
    equalityVerdict]
  split
  · rfl
  · obtain ⟨op, a, b⟩ := c
    cases a with
    | const a => cases b <;> rfl
    | _ => rfl

theorem orderVerdict_toTree (c : Comparison) :
    c.toTree.orderVerdict = Failure.report id c.orderVerdict.value := by
  rw [Tree.Comparison.orderVerdict, isNumeric_toTree, map_reduce_toTree, refuse_toTree,
    orderVerdict]
  split <;> rfl

theorem evaluate_toTree (c : Comparison) :
    c.toTree.evaluate = Failure.report id c.evaluate.value := by
  have hequality := c.equalityVerdict_toTree
  have horder := c.orderVerdict_toTree
  rw [value_evaluate]
  obtain ⟨op, a, b⟩ := c
  cases op with
  | equal => exact hequality
  | notEqual =>
    have hnot : Tree.Comparison.evaluate (toTree ⟨.notEqual, a, b⟩) =
        (toTree ⟨.notEqual, a, b⟩).equalityVerdict.map not := rfl
    rw [hnot, hequality, verdict, Logged.value_bind]
    cases (Comparison.equalityVerdict ⟨.notEqual, a, b⟩).value with
    | error e => rfl
    | ok result => rfl
  | less => exact horder
  | lessEqual => exact horder
  | greater => exact horder
  | greaterEqual => exact horder

end Comparison

namespace Equality

def toTree (e : Equality) : Tree.Comparison := e.toComparison.toTree

theorem standardize_toTree (e : Equality) : e.toTree.standardize = toTree <$> e.standardize := by
  rw [toTree, Comparison.standardize_toTree, standardize_toComparison, Functor.map_map]
  rfl

end Equality

namespace Draft

def toTree (d : Draft) : Tree.Draft := ⟨d.op, d.left.map Term.toTree, d.right.map Term.toTree⟩

theorem finish_toTree (d : Draft) : d.toTree.finish = d.finish.map Comparison.toTree := by
  obtain ⟨op, left, right⟩ := d
  cases left with
  | none => rfl
  | some a => cases right <;> rfl

end Draft

namespace Expression

def toTree : Expression → Tree.Expression
  | term t => .term t.toTree
  | comparison c => .comparison c.toTree
  | equality e => .equality e.toTree

def term? : Expression → Option Term
  | term t => some t
  | _ => none

def operands : Expression → List Term
  | term t => t.operands
  | comparison c => [c.left, c.right]
  | equality e => [e.left, e.right]

def narrow : Expression → Option Expression
  | comparison c => (Equality.ofComparison c).toOption.map equality
  | _ => none

def widen : Expression → Option Expression
  | equality e => some (comparison e.toComparison)
  | _ => none

def evaluate : Expression → Except Error (Number ⊕ Bool)
  | term t => t.evaluate.map .inl
  | comparison c => c.evaluate.value.map .inr
  | equality e => e.evaluate.value.map .inr

theorem wellFormed_toTree (e : Expression) : e.toTree.WellFormed := by
  cases e with
  | term t => exact .term t.wellFormed_toTree
  | comparison c => exact .comparison c.left.wellFormed_toTree c.right.wellFormed_toTree
  | equality e => exact .equality rfl e.left.wellFormed_toTree e.right.wellFormed_toTree

theorem operands_toTree (e : Expression) : e.toTree.operands = e.operands.map Term.toTree := by
  cases e with
  | term t => exact t.operands_toTree
  | comparison c => rfl
  | equality e => rfl

theorem apply_toTree (s : Substitution) (e : Expression) :
    e.toTree.apply s.toTree = (e.apply s).toTree := by
  cases e with
  | term t => exact congrArg Tree.Expression.term (t.apply_toTree s)
  | comparison c => exact congrArg Tree.Expression.comparison (c.apply_toTree s)
  | equality e => exact congrArg Tree.Expression.equality (e.toComparison.apply_toTree s)

theorem standardize_toTree (e : Expression) :
    e.toTree.standardize = toTree <$> e.standardize := by
  cases e with
  | term t => simp [toTree, Tree.Expression.standardize, standardize, Term.standardize_toTree]
  | comparison c =>
    simp [toTree, Tree.Expression.standardize, standardize, Comparison.standardize_toTree]
  | equality e =>
    simp [toTree, Tree.Expression.standardize, standardize, Equality.standardize_toTree]

theorem narrow_toTree (e : Expression) : e.toTree.narrow = e.narrow.map toTree := by
  cases e with
  | term t => rfl
  | equality e => rfl
  | comparison c =>
    obtain ⟨op, a, b⟩ := c
    cases op <;> rfl

theorem evaluate_toTree (e : Expression) :
    e.toTree.evaluate = Failure.report (Sum.map .finite id) e.evaluate := by
  cases e with
  | term t =>
    rw [toTree, Tree.Expression.evaluate, Term.evaluate_toTree, evaluate]
    cases t.evaluate <;> rfl
  | comparison c =>
    rw [toTree, Tree.Expression.evaluate, Comparison.evaluate_toTree, evaluate]
    cases c.evaluate.value <;> rfl
  | equality e =>
    rw [toTree, Tree.Expression.evaluate, Equality.toTree, Comparison.evaluate_toTree, evaluate,
      Equality.evaluate]
    cases e.toComparison.evaluate.value <;> rfl

end Expression

end PlanComparison
