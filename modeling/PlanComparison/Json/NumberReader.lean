import PlanComparison.Json.NumeralLiteral
import PlanComparison.Number.Arithmetic

/-!
Which number a numeral is read as is for the package that reads the text to say. It is a parameter
of everything here that reads numbers, and nothing is taken for granted of it: that a number is read
back as it was written is a hypothesis wherever it is needed, on just the numbers concerned.
-/

namespace PlanComparison

def Binary64.number? : Binary64 → Option Number
  | finite x => some x
  | _ => none

/-- No value for a numeral that is refused. -/
abbrev NumberReader := Numeral → Option Binary64

namespace NumberReader

def Restores (reader : NumberReader) (x : Number) : Prop := reader x.numeral = some (.finite x)

instance (reader : NumberReader) (x : Number) : Decidable (reader.Restores x) :=
  inferInstanceAs (Decidable (reader x.numeral = some (.finite x)))

abbrev RestoresAll (reader : NumberReader) (xs : List Number) : Prop := ∀ x ∈ xs, reader.Restores x

/-- Rounds once, and restores every number. -/
def nearest : NumberReader := fun x => some x.toBinary64

/-- The value of the digits, as far as it fits a 64-bit word, and the digits that are left over. -/
def significand (n : Nat) : List Digit → Nat × List Digit
  | [] => (n, [])
  | d :: ds =>
    if 10 * n + d.val < UInt64.size then significand (10 * n + d.val) ds else (n, d :: ds)

/-- Rounds twice, as the power of ten is a number itself. -/
def scale (x : Number) (exponent : Int) : Option Number := do
  let power ← (Decimal.toBinary64 false ⟨1, exponent.natAbs⟩).number?
  if 0 ≤ exponent then (x.mul power).number? else (x.div power).number?

def lower : Nat → Number → Option Number
  | 0, x => some x
  | steps + 1, x => if x.isZero then some x else do lower steps (← scale x (-308))

/-- Scales the rounded significand, which is faster than to round once and may miss the nearest
number. Digits that are left over count as zeros before the point, and not at all after it. -/
def scaling : NumberReader := fun x => do
  let (n, wholeRest) := significand 0 x.whole
  let (n, fractionRest) := significand n x.fraction
  let exponent : Int :=
    wholeRest.length + fractionRest.length - x.fraction.length + x.exponent.getD 0
  let y ← (Binary64.ofInt n).number?
  let steps := ((-exponent - 1) / 308).toNat
  let y ← if y.isZero then some y
    else if 308 < exponent then none
    else do scale (← lower steps y) (exponent + 308 * steps)
  return .finite (if x.negative then y.neg else y)

-- The number nearest to a tenth is restored, and that nearest to an eleventh is not.
example :
    scaling.Restores ⟨false, 4591870180066957722, by decide⟩ ∧
      ¬scaling.Restores ⟨false, 4591215111030249286, by decide⟩ := by decide +kernel

end NumberReader

end PlanComparison
