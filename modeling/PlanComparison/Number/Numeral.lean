import PlanComparison.Number.Digits
import PlanComparison.Number.Shortest

namespace PlanComparison

structure Numeral where
  negative : Bool
  whole : List Digit
  fraction : List Digit
  exponent : Option Int
  deriving DecidableEq

namespace Numeral

def decimal (x : Numeral) : Decimal :=
  ⟨Digits.value (x.whole ++ x.fraction), x.exponent.getD 0 - x.fraction.length⟩

def toBinary64 (x : Numeral) : Binary64 := x.decimal.toBinary64 x.negative

def isInteger (x : Numeral) : Bool := x.fraction.isEmpty && x.exponent.isNone

def exponentText (e : Int) : String :=
  (if e < 0 then "e-" else "e+") ++ decimalText e.natAbs

def text (x : Numeral) : String :=
  (if x.negative then "-" else "") ++ Digits.text x.whole ++
    (if x.fraction.isEmpty then "" else "." ++ Digits.text x.fraction) ++
    (x.exponent.map exponentText).getD ""

def positional (negative : Bool) (d : Decimal) : Numeral :=
  let digits := Digits.ofNat d.coefficient
  let places := (-d.exponent).toNat
  let padded := List.replicate (places + 1 - digits.length) .zero ++ digits ++
    List.replicate d.exponent.toNat .zero
  let whole := padded.length - places
  ⟨negative, padded.take whole, padded.drop whole, none⟩

/-- The exponent of ten at the first digit. -/
def leading (d : Decimal) : Int := d.exponent + (Digits.ofNat d.coefficient).length - 1

def scientific (negative : Bool) (d : Decimal) : Numeral :=
  let digits := Digits.ofNat d.coefficient
  ⟨negative, digits.take 1, digits.drop 1, some (leading d)⟩

def pointed (x : Numeral) : Numeral :=
  if x.fraction.isEmpty then { x with fraction := [.zero] } else x

end Numeral

def Number.text (x : Number) : String :=
  (Numeral.positional x.negative (x.shortest .up)).text

def Binary64.text : Binary64 → String
  | .finite x => x.text
  | .infinite negative => if negative then "-inf" else "inf"
  | .nan => "NaN"

end PlanComparison
