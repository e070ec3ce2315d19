
namespace PlanComparison

abbrev Digit := Fin 10

namespace Digit

def zero : Digit := ⟨0, by decide⟩

def char (d : Digit) : Char := Char.ofNat ('0'.toNat + d.val)

def ofChar? (c : Char) : Option Digit :=
  if h : 48 ≤ c.toNat ∧ c.toNat < 58 then some ⟨c.toNat - 48, by omega⟩ else none

theorem ofChar?_char : ∀ d : Digit, ofChar? d.char = some d := by decide

end Digit

namespace Digits

/-- Most significant digit first, without leading zeros; zero has the one digit 0. -/
def ofNat (n : Nat) : List Digit :=
  if h : n < 10 then [⟨n, h⟩] else ofNat (n / 10) ++ [⟨n % 10, by omega⟩]

def value (ds : List Digit) : Nat := ds.foldl (fun n d => 10 * n + d.val) 0

theorem value_append_singleton (ds : List Digit) (d : Digit) :
    value (ds ++ [d]) = 10 * value ds + d.val := by
  simp [value]

theorem value_ofNat (n : Nat) : value (ofNat n) = n := by
  fun_induction ofNat n with
  | case1 n h => simp [value]
  | case2 n h ih =>
    rw [value_append_singleton, ih]
    dsimp only
    omega

def text (ds : List Digit) : String := String.ofList (ds.map Digit.char)

def span : List Char → List Digit × List Char
  | [] => ([], [])
  | c :: cs =>
    match Digit.ofChar? c with
    | some d => let (ds, rest) := span cs; (d :: ds, rest)
    | none => ([], c :: cs)

theorem length_span (cs : List Char) :
    (span cs).1.length + (span cs).2.length = cs.length := by
  induction cs with
  | nil => rfl
  | cons c cs ih =>
    unfold span
    split
    · simp only [List.length_cons]
      omega
    · simp

theorem span_append (ds : List Digit) (cs : List Char)
    (h : ∀ c ∈ cs.head?, Digit.ofChar? c = none) : span (ds.map Digit.char ++ cs) = (ds, cs) := by
  induction ds with
  | nil =>
    cases cs with
    | nil => rfl
    | cons c cs => simp [span, h c rfl]
  | cons d ds ih => simp [span, Digit.ofChar?_char, ih]

end Digits

def decimalText (n : Nat) : String := Digits.text (Digits.ofNat n)

end PlanComparison
