import PlanComparison.Number.Numeral

namespace PlanComparison

namespace Numeral

def readDigits (cs : List Char) : Option (List Digit × List Char) :=
  match Digits.span cs with
  | ([], _) => none
  | (ds, rest) => some (ds, rest)

def readSign : List Char → Bool × List Char
  | '-' :: cs => (true, cs)
  | cs => (false, cs)

/-- Only zero itself starts with the digit 0. -/
def readWhole (cs : List Char) : Option (List Digit × List Char) := do
  let (ds, rest) ← readDigits cs
  if ds.head? == some Digit.zero && ds.length != 1 then none else return (ds, rest)

def readFraction : List Char → Option (List Digit × List Char)
  | '.' :: cs => readDigits cs
  | cs => some ([], cs)

def readExponentSign : List Char → Bool × List Char
  | '-' :: cs => (true, cs)
  | '+' :: cs => (false, cs)
  | cs => (false, cs)

def readExponent : List Char → Option (Option Int × List Char)
  | [] => some (none, [])
  | c :: cs =>
    if c = 'e' ∨ c = 'E' then do
      let sign := readExponentSign cs
      let (ds, rest) ← readDigits sign.2
      let n : Int := Digits.value ds
      return (some (if sign.1 then -n else n), rest)
    else some (none, c :: cs)

def read (cs : List Char) : Option (Numeral × List Char) := do
  let sign := readSign cs
  let (whole, cs) ← readWhole sign.2
  let (fraction, cs) ← readFraction cs
  let (exponent, cs) ← readExponent cs
  return (⟨sign.1, whole, fraction, exponent⟩, cs)

theorem length_readDigits {cs rest : List Char} {ds : List Digit}
    (h : readDigits cs = some (ds, rest)) : rest.length < cs.length := by
  have hs := Digits.length_span cs
  unfold readDigits at h
  generalize Digits.span cs = p at h hs
  obtain ⟨ds', r⟩ := p
  cases ds' with
  | nil => cases h
  | cons d ds' =>
    cases h
    simp only [List.length_cons] at hs
    omega

theorem length_readSign (cs : List Char) : (readSign cs).2.length ≤ cs.length := by
  unfold readSign
  split <;> simp

theorem length_readWhole {cs rest : List Char} {ds : List Digit}
    (h : readWhole cs = some (ds, rest)) : rest.length < cs.length := by
  simp only [readWhole, bind, Option.bind_eq_some_iff] at h
  obtain ⟨⟨ds', r⟩, hd, hr⟩ := h
  split at hr
  · cases hr
  · cases hr
    exact length_readDigits hd

theorem length_readFraction {cs rest : List Char} {ds : List Digit}
    (h : readFraction cs = some (ds, rest)) : rest.length ≤ cs.length := by
  unfold readFraction at h
  split at h
  · have := length_readDigits h
    simp only [List.length_cons]
    omega
  · cases h
    exact Nat.le_refl _

theorem length_readExponentSign (cs : List Char) :
    (readExponentSign cs).2.length ≤ cs.length := by
  unfold readExponentSign
  split <;> simp

theorem length_readExponent {cs rest : List Char} {e : Option Int}
    (h : readExponent cs = some (e, rest)) : rest.length ≤ cs.length := by
  cases cs with
  | nil =>
    cases h
    exact Nat.le_refl _
  | cons c cs =>
    by_cases hc : c = 'e' ∨ c = 'E'
    · rw [readExponent, if_pos hc] at h
      simp only [bind, Option.bind_eq_some_iff] at h
      obtain ⟨⟨ds, r⟩, hd, hr⟩ := h
      cases hr
      have := length_readDigits hd
      have := length_readExponentSign cs
      simp only [List.length_cons]
      omega
    · rw [readExponent, if_neg hc] at h
      cases h
      exact Nat.le_refl _

theorem length_read {cs rest : List Char} {x : Numeral} (h : read cs = some (x, rest)) :
    rest.length < cs.length := by
  simp only [read, bind, Option.bind_eq_some_iff] at h
  obtain ⟨⟨whole, r⟩, hw, ⟨fraction, r'⟩, hf, ⟨e, r''⟩, he, hr⟩ := h
  cases hr
  have := length_readSign cs
  have := length_readWhole hw
  have := length_readFraction hf
  have := length_readExponent he
  dsimp only at *
  omega

end Numeral

/-- The shortest digits, with a point even if the number is whole; an exponent is used below
10 ^ -5 and from 10 ^ 16 on. -/
def Number.numeral (x : Number) : Numeral :=
  let d := x.shortest .even
  if -5 ≤ Numeral.leading d ∧ Numeral.leading d < 16 then (Numeral.positional x.negative d).pointed
  else Numeral.scientific x.negative d

end PlanComparison
