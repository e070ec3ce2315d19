import Mathlib.Data.List.Basic
import PlanComparison.Proofs.Allocation
import PlanComparison.Proofs.ExtendedArithmetic
import PlanComparison.Proofs.Reduction
import PlanComparison.Term.Construction

/-!
Terms as they are stored: an operator with any list of operands, and any 64-bit value for a
literal. Nothing but the constructors and the readers counts the operands of an operator or looks
at a literal; substitution, renaming and evaluation take trees as they come.
-/

namespace PlanComparison

inductive Tree where
  | var (name : String)
  | const (name : String)
  | num (value : Binary64)
  | node (op : Operator) (operands : List Tree)

namespace Tree

inductive WellFormed : Tree → Prop
  | var (name : String) : WellFormed (.var name)
  | const (name : String) : WellFormed (.const name)
  | num {value : Binary64} (h : value.isFinite = true) : WellFormed (.num value)
  | node {op : Operator} {operands : List Tree} (hcount : operands.length = op.arity)
    (h : ∀ a ∈ operands, a.WellFormed) : WellFormed (.node op operands)

def literal (value : Binary64) : Except Error Tree :=
  if value.isFinite then .ok (num value) else .error (.notFinite value)

def arithmetic (op : Operator) (operands : List Tree) : Except Error Tree :=
  if operands.length = op.arity then .ok (node op operands)
  else .error (.operandCount op operands.length)

def operands : Tree → List Tree
  | node _ operands => operands
  | _ => []

def text : Tree → String
  | var name => name
  | const name => name
  | num value => value.text
  | node op operands =>
    "(" ++ op.symbol ++ String.join (operands.map fun a => " " ++ a.text) ++ ")"

def isNumeric : Tree → Bool
  | var _ => false
  | const _ => false
  | num _ => true
  | node _ operands => (operands.map isNumeric).and

def apply (s : OrderedMap Tree) : Tree → Tree
  | t@(var name) => (s.get? name).getD t
  | t@(const _) => t
  | t@(num _) => t
  | node op operands => node op (operands.map (apply s))

def compose (s r : OrderedMap Tree) : OrderedMap Tree := (s.map (apply r)).union r

def standardize : Tree → Renaming Tree
  | var name => return var (← imageOf name)
  | const name => return const name
  | num value => return num value
  | node op operands => return node op (← operands.mapM standardize)

/-- An error as a caller sees it: its kind and its wording. -/
structure Failure where
  kind : Error.Kind
  detail : String
  deriving DecidableEq

def Failure.of (e : Error) : Failure := ⟨e.kind, e.detail⟩

def combine (t : Tree) : Operator → List Binary64 → Except Failure Binary64
  | .binary .divide, [x, y] =>
    if y.isZero then .error ⟨.divisionByZero, "division by zero in " ++ t.text⟩ else .ok (x.div y)
  | .binary op, [x, y] => .ok (op.extended x y)
  | .minus, [x] => .ok x.neg
  | _, _ => .error ⟨.invalidArgument, "malformed arithmetic function " ++ t.text⟩

def settle (t : Tree) (value : Binary64) : Except Failure Binary64 :=
  if value.isFinite then .ok value else .error ⟨.nonFinite, "non-finite result in " ++ t.text⟩

def evaluate : Tree → Except Failure Binary64
  | t@(var _) => .error ⟨.notEvaluable, "term " ++ t.text⟩
  | t@(const _) => .error ⟨.notEvaluable, "term " ++ t.text⟩
  | num value => .ok value
  | t@(node op operands) => do
    let values ← operands.mapM evaluate
    t.settle (← t.combine op values)

example : (node .minus []).evaluate =
    .error ⟨.invalidArgument, "malformed arithmetic function (-)"⟩ := by cbv

end Tree

def Term.toTree : Term → Tree
  | var name => .var name
  | const name => .const name
  | num x => .num (.finite x)
  | minus a => .node .minus [a.toTree]
  | binary op a b => .node (.binary op) [a.toTree, b.toTree]

def Substitution.toTree (s : Substitution) : OrderedMap Tree := s.map Term.toTree

namespace Tree

namespace Failure

variable {α β : Type} {f : α → β} {r : Except Error α}

def report (f : α → β) : Except Error α → Except Failure β
  | .ok a => .ok (f a)
  | .error e => .error (.of e)

theorem report_eq_ok {b : β} (h : report f r = .ok b) : ∃ a, r = .ok a ∧ f a = b := by
  cases r with
  | ok a =>
    cases h
    exact ⟨a, rfl, rfl⟩
  | error e => cases h

theorem report_eq_error {failure : Failure} (h : report f r = .error failure) :
    ∃ e, r = .error e ∧ Failure.of e = failure := by
  cases r with
  | ok a => cases h
  | error e =>
    cases h
    exact ⟨e, rfl, rfl⟩

end Failure

end Tree

namespace Term

open PlanComparison.Tree (Failure)

theorem wellFormed_toTree (t : Term) : t.toTree.WellFormed := by
  induction t with
  | var name => exact .var name
  | const name => exact .const name
  | num x => exact .num rfl
  | minus a ih => exact .node rfl (by simpa using ih)
  | binary op a b iha ihb => exact .node rfl (by simpa using ⟨iha, ihb⟩)

theorem exists_toTree_eq {t : Tree} (h : t.WellFormed) : ∃ u : Term, u.toTree = t := by
  induction h with
  | var name => exact ⟨var name, rfl⟩
  | const name => exact ⟨const name, rfl⟩
  | @num value h =>
    cases value with
    | finite x => exact ⟨num x, rfl⟩
    | infinite negative => cases h
    | nan => cases h
  | @node op operands hcount _ ih =>
    cases op with
    | minus =>
      obtain ⟨a, rfl⟩ := List.length_eq_one_iff.mp hcount
      obtain ⟨u, rfl⟩ := ih a List.mem_cons_self
      exact ⟨minus u, rfl⟩
    | binary op =>
      obtain ⟨a, b, rfl⟩ := List.length_eq_two.mp hcount
      obtain ⟨u, rfl⟩ := ih a (by simp)
      obtain ⟨v, rfl⟩ := ih b (by simp)
      exact ⟨binary op u v, rfl⟩

theorem literal_toTree (value : Binary64) :
    Tree.literal value = (literal value).map toTree := by
  cases value <;> rfl

theorem arithmetic_toTree (op : Operator) (operands : List Term) :
    Tree.arithmetic op (operands.map toTree) = (arithmetic op operands).map toTree := by
  by_cases hcount : operands.length = op.arity
  · rw [Tree.arithmetic, if_pos (by rw [List.length_map, hcount])]
    cases op with
    | minus =>
      obtain ⟨a, rfl⟩ := List.length_eq_one_iff.mp hcount
      rfl
    | binary op =>
      obtain ⟨a, b, rfl⟩ := List.length_eq_two.mp hcount
      rfl
  · have herror := (arithmetic_eq_error_iff op operands _).mpr ⟨hcount, rfl⟩
    rw [Tree.arithmetic, List.length_map, if_neg hcount, herror]
    rfl

theorem operands_toTree (t : Term) : t.toTree.operands = t.operands.map toTree := by
  cases t <;> rfl

theorem text_toTree (t : Term) : t.toTree.text = t.text := by
  induction t with
  | var name => simp [toTree, Tree.text, text]
  | const name => simp [toTree, Tree.text, text]
  | num x => simp [toTree, Tree.text, text, Binary64.text]
  | minus a ih => simp [toTree, Tree.text, text, ih, String.append_assoc]
  | binary op a b iha ihb =>
    simp [toTree, Tree.text, text, iha, ihb, Operator.symbol, String.append_assoc]

theorem isNumeric_toTree (t : Term) : t.toTree.isNumeric = t.isNumeric := by
  induction t with
  | var name => simp [toTree, Tree.isNumeric, isNumeric]
  | const name => simp [toTree, Tree.isNumeric, isNumeric]
  | num x => simp [toTree, Tree.isNumeric, isNumeric]
  | minus a ih => simp [toTree, Tree.isNumeric, isNumeric, ih]
  | binary op a b iha ihb => simp [toTree, Tree.isNumeric, isNumeric, iha, ihb]

theorem apply_toTree (s : Substitution) (t : Term) :
    t.toTree.apply s.toTree = (t.apply s).toTree := by
  induction t with
  | var name =>
    simp only [toTree, Tree.apply, apply, Substitution.toTree, OrderedMap.get?_map]
    cases s.get? name <;> rfl
  | const name => simp [toTree, Tree.apply, apply]
  | num x => simp [toTree, Tree.apply, apply]
  | minus a ih => simp [toTree, Tree.apply, apply, ih]
  | binary op a b iha ihb => simp [toTree, Tree.apply, apply, iha, ihb]

theorem standardize_toTree (t : Term) :
    t.toTree.standardize = toTree <$> t.standardize := by
  induction t with
  | var name => simp [toTree, Tree.standardize, standardize]
  | const name => simp [toTree, Tree.standardize, standardize]
  | num x => simp [toTree, Tree.standardize, standardize]
  | minus a ih => simp [toTree, Tree.standardize, standardize, ih]
  | binary op a b iha ihb => simp [toTree, Tree.standardize, standardize, iha, ihb]

theorem combine_toTree (t : Term) (op : BinaryOp) (x y : Number) :
    t.toTree.combine (.binary op) [.finite x, .finite y] >>= t.toTree.settle =
      Failure.report .finite (t.combine op x y) := by
  rw [combine]
  split
  · rename_i h
    obtain ⟨rfl, hy⟩ := h
    rw [Tree.combine, Binary64.isZero, if_pos hy, text_toTree]
    rfl
  · rename_i h
    have hvalue : t.toTree.combine (.binary op) [.finite x, .finite y] = .ok (op.apply x y) := by
      rw [← op.extended_finite]
      cases op with
      | divide =>
        have hy : ¬y.isZero = true := fun hy => h ⟨rfl, hy⟩
        rw [Tree.combine, Binary64.isZero, if_neg hy]
        rfl
      | add => rfl
      | subtract => rfl
      | multiply => rfl
    rw [hvalue]
    cases op.apply x y with
    | finite z => rfl
    | infinite negative =>
      change Except.error _ = _
      rw [text_toTree]
      rfl
    | nan =>
      change Except.error _ = _
      rw [text_toTree]
      rfl

theorem evaluate_toTree (t : Term) :
    t.toTree.evaluate = Failure.report .finite t.evaluate := by
  induction t with
  | var name =>
    rw [toTree, Tree.evaluate, Tree.text]
    rfl
  | const name =>
    rw [toTree, Tree.evaluate, Tree.text]
    rfl
  | num x =>
    rw [toTree, Tree.evaluate]
    rfl
  | minus a ih =>
    rw [toTree, Tree.evaluate, List.mapM_cons, ih, evaluate]
    cases a.evaluate with
    | error e => rfl
    | ok x => rfl
  | binary op a b iha ihb =>
    have hcombine := combine_toTree (binary op a b) op
    rw [toTree] at hcombine
    rw [toTree, Tree.evaluate, List.mapM_cons, iha, List.mapM_cons, ihb, evaluate]
    cases a.evaluate with
    | error e => rfl
    | ok x =>
      cases b.evaluate with
      | error e => rfl
      | ok y => exact hcombine x y

end Term

theorem Substitution.compose_toTree (s r : Substitution) :
    Tree.compose s.toTree r.toTree = (s.compose r).toTree := by
  have happly : Tree.apply r.toTree ∘ Term.toTree = Term.toTree ∘ Term.apply r :=
    funext (Term.apply_toTree r)
  have hs : s.toTree.map (Tree.apply r.toTree) = (s.map (Term.apply r)).map Term.toTree := by
    change (s.map Term.toTree).map (Tree.apply r.toTree) = _
    rw [OrderedMap.map_map, OrderedMap.map_map, happly]
  rw [Tree.compose, hs]
  exact (OrderedMap.map_union Term.toTree (s.map (Term.apply r)) r).symm

end PlanComparison
