import PlanComparison.Renaming.Standardize
import PlanComparison.Substitution

namespace PlanComparison

inductive Expression where
  | term (t : Term)
  | comparison (c : Comparison)
  | equality (e : Equality)
  deriving DecidableEq

namespace Expression

def apply (s : Substitution) : Expression → Expression
  | term t => term (t.apply s)
  | comparison c => comparison (c.apply s)
  | equality e => equality (e.apply s)

def terms : Expression → List Term
  | term t => [t]
  | comparison c => [c.left, c.right]
  | equality e => [e.left, e.right]

theorem terms_apply (s : Substitution) (x : Expression) :
    (x.apply s).terms = x.terms.map (Term.apply s) := by
  cases x <;> rfl

def standardize : Expression → Renaming Expression
  | term t => return term (← t.standardize)
  | comparison c => return comparison (← c.standardize)
  | equality e => return equality (← e.standardize)

end Expression

theorem Equality.toComparison_inj {e f : Equality} (h : e.toComparison = f.toComparison) :
    e = f := by
  cases e
  cases f
  cases h
  rfl

theorem Equality.standardize_toComparison (e : Equality) :
    e.toComparison.standardize = toComparison <$> e.standardize := by
  simp [toComparison, standardize, Comparison.standardize]

end PlanComparison
