import PlanComparison.Number.Rounding

namespace PlanComparison

/-- The value `coefficient * 10 ^ exponent`. -/
structure Decimal where
  coefficient : Nat
  exponent : Int
  deriving DecidableEq

namespace Decimal

/-- An exponent past 400 gives infinity unless the coefficient is zero, and one so low that
the value is below 10 ^ -1199 gives zero; both are brought nearer, which changes neither. -/
def boundedExponent (d : Decimal) : Int :=
  max (min d.exponent 400) (-(d.coefficient.log2 + 1200))

def toBinary64 (negative : Bool) (d : Decimal) : Binary64 :=
  let e := d.boundedExponent
  Binary64.nearest negative (d.coefficient * Nat.pow 10 e.toNat * oneUnits) (Nat.pow 10 (-e).toNat)

end Decimal

end PlanComparison
