import PlanComparison.Comparison.Equality
import PlanComparison.OrderedMap

/-!
Substitutions of terms for variables. All variables are replaced at once: the terms put in their
place are not searched again.
-/

namespace PlanComparison

abbrev Substitution := OrderedMap Term

def Term.apply (s : Substitution) : Term → Term
  | t@(var name) => (s.get? name).getD t
  | t@(const _) => t
  | t@(num _) => t
  | minus a => minus (a.apply s)
  | binary op a b => binary op (a.apply s) (b.apply s)

def Comparison.apply (s : Substitution) (c : Comparison) : Comparison :=
  ⟨c.op, c.left.apply s, c.right.apply s⟩

def Equality.apply (s : Substitution) (e : Equality) : Equality :=
  ⟨e.left.apply s, e.right.apply s⟩

namespace Substitution

protected def bind (s : Substitution) (name : String) (t : Term) : Option Term × Substitution :=
  (s.get? name, s.insert name t)

/-- First `s`, then `r`: `r` is applied to the terms of `s`, and what only `r` binds is added. -/
def compose (s r : Substitution) : Substitution := (s.map (Term.apply r)).union r

end Substitution

end PlanComparison
