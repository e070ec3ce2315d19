
namespace PlanComparison.Hex

def digit (d : Nat) : Char := Char.ofNat (if d < 10 then 48 + d else 87 + d)

def value? (c : Char) : Option Nat :=
  let n := c.toNat
  if 48 ≤ n ∧ n < 58 then some (n - 48)
  else if 97 ≤ n ∧ n < 103 then some (n - 87)
  else if 65 ≤ n ∧ n < 71 then some (n - 55)
  else none

theorem value?_digit : ∀ d < 16, value? (digit d) = some d := by decide

def digits (n : Nat) : List Char :=
  if n < 16 then [digit n] else digits (n / 16) ++ [digit (n % 16)]

end PlanComparison.Hex
