import PlanComparison.Number.Basic

/-!
The number nearest to a quotient of natural numbers, given in units of 2 ^ -1074.
Of two that are equally near, the one of even rank is taken.
-/

namespace PlanComparison

def roundHalfEven (n d : Nat) : Nat :=
  if 2 * (n % d) < d ∨ 2 * (n % d) = d ∧ n / d % 2 = 0 then n / d else n / d + 1

namespace Number

/-- The binade is found from the whole part; within it the quotient is rounded to a multiple
of the distance between neighbours. Rounding up to the end of a binade gives the rank of the
first magnitude of the next. -/
def nearestRank (n d : Nat) : Nat :=
  let s := (n / d).log2 - 52
  s * binade + roundHalfEven n (d * Nat.pow 2 s)

end Number

namespace Binary64

/-- The nearest number to `n / d` units, or infinity from half a step past the largest. -/
def nearest (negative : Bool) (n d : Nat) : Binary64 :=
  ofRank negative (Number.nearestRank n d)

def ofInt (n : Int) : Binary64 := nearest (n < 0) (n.natAbs * oneUnits) 1

end Binary64

end PlanComparison
