/-!
The finite numbers of binary floating point with 53 bits of precision (binary64).
A number is a sign and a rank: its magnitude is the `rank`-th one, counted from zero upwards.
Magnitudes are whole multiples of the least positive one, 2 ^ -1074, so the values a number
stands for are integers in that unit.
-/

namespace PlanComparison

/-- How many magnitudes have the same binary exponent. -/
def binade : Nat := Nat.pow 2 52

def oneUnits : Nat := Nat.pow 2 1074

def signBit : Nat := Nat.pow 2 63

/-- Zero has either sign; the two zeros are different numbers with the same value. -/
structure Number where
  negative : Bool
  rank : Nat
  rank_lt : rank < 2047 * binade
  deriving DecidableEq

namespace Number

/-- The position of the binade: from the first one up, neighbours are 2 ^ scale units apart. -/
def scale (rank : Nat) : Nat := rank / binade - 1

def magnitude (x : Number) : Nat :=
  (x.rank - scale x.rank * binade) * Nat.pow 2 (scale x.rank)

def units (x : Number) : Int := if x.negative then -(x.magnitude : Int) else x.magnitude

def same (x y : Number) : Bool := x.units == y.units

def lt (x y : Number) : Bool := x.units < y.units

def le (x y : Number) : Bool := x.units ≤ y.units

def isZero (x : Number) : Bool := x.rank == 0

def neg (x : Number) : Number := { x with negative := !x.negative }

end Number

inductive Binary64 where
  | finite (x : Number)
  | infinite (negative : Bool)
  | nan
  deriving DecidableEq

namespace Binary64

def ofRank (negative : Bool) (rank : Nat) : Binary64 :=
  if h : rank < 2047 * binade then finite ⟨negative, rank, h⟩ else infinite negative

/-- The word holds the sign, then eleven bits of exponent, then the fraction: below the sign
it is the rank, and the first rank too high stands for infinity. -/
def ofBits (word : UInt64) : Binary64 :=
  let rank := word.toNat % signBit
  if rank ≤ 2047 * binade then ofRank (signBit ≤ word.toNat) rank else nan

def isFinite : Binary64 → Bool
  | finite _ => true
  | _ => false

end Binary64

def Number.toBits (x : Number) : UInt64 :=
  UInt64.ofNat ((if x.negative then signBit else 0) + x.rank)

end PlanComparison
