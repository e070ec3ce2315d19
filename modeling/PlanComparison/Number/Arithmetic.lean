import PlanComparison.Number.Rounding

namespace PlanComparison.Number

/-- A sum of zero is negative only if both numbers are. -/
def add (x y : Number) : Binary64 :=
  let sum := x.units + y.units
  Binary64.nearest (if sum = 0 then x.negative && y.negative else sum < 0) sum.natAbs 1

def sub (x y : Number) : Binary64 := x.add y.neg

def mul (x y : Number) : Binary64 :=
  Binary64.nearest (x.negative ^^ y.negative) (x.magnitude * y.magnitude) oneUnits

def div (x y : Number) : Binary64 :=
  if y.isZero then
    if x.isZero then .nan else .infinite (x.negative ^^ y.negative)
  else Binary64.nearest (x.negative ^^ y.negative) (x.magnitude * oneUnits) y.magnitude

end PlanComparison.Number
