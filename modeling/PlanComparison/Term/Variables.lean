import PlanComparison.Term.Basic

namespace PlanComparison

def distinct : List String → List String
  | [] => []
  | x :: xs => x :: (distinct xs).filter (· ≠ x)

namespace Term

def occurrences : Term → List String
  | var name => [name]
  | const _ => []
  | num _ => []
  | minus a => a.occurrences
  | binary _ a b => a.occurrences ++ b.occurrences

def vars (t : Term) : List String := distinct t.occurrences

end Term

end PlanComparison
