import PlanComparison.Number.Decimal

/-!
The shortest decimal that reads back as a given number.
Grids of decimals are tried from coarse to fine. On each the two neighbours of the number are
read back, the nearer one first, and the first that gives the number is taken.
-/

namespace PlanComparison

/-- Which neighbour counts as the nearer when the number is halfway between them. -/
inductive Tie where
  | up
  | even
  deriving DecidableEq

namespace Tie

def above (tie : Tie) (n d : Nat) : Bool :=
  d < 2 * (n % d) || 2 * (n % d) == d && (tie == .up || n / d % 2 == 1)

end Tie

namespace Number

def readsBack (x : Number) (d : Decimal) : Bool := d.toBinary64 x.negative == .finite x

def onGrid (tie : Tie) (x : Number) (exponent : Int) : Option Decimal :=
  let n := x.magnitude * Nat.pow 10 (-exponent).toNat
  let d := oneUnits * Nat.pow 10 exponent.toNat
  let below := n / d
  let order := if tie.above n d then [below + 1, below] else [below, below + 1]
  (order.map fun c => Decimal.mk c exponent).find? x.readsBack

/-- Every grid from one too coarse for the number down to its seventeenth digit. -/
def grids (x : Number) : List Int :=
  let top := (x.magnitude.log2 - 1073 : Int) * 30103 / 100000 + 2
  (List.range 22).map fun (i : Nat) => top - i

def exact (x : Number) : Decimal := ⟨x.magnitude * Nat.pow 5 1074, -1074⟩

def shortest (tie : Tie) (x : Number) : Decimal :=
  if x.isZero then ⟨0, 0⟩ else (x.grids.findSome? (x.onGrid tie)).getD x.exact

end Number

end PlanComparison
