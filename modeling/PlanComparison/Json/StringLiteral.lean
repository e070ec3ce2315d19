import PlanComparison.Text.Hex

namespace PlanComparison.StringLiteral

def escape (c : Char) : List Char :=
  match c with
  | '"' => ['\\', '"']
  | '\\' => ['\\', '\\']
  | '\n' => ['\\', 'n']
  | '\r' => ['\\', 'r']
  | '\t' => ['\\', 't']
  | '\x08' => ['\\', 'b']
  | '\x0c' => ['\\', 'f']
  | c =>
    if c.toNat < 32 then ['\\', 'u', '0', '0', Hex.digit (c.toNat / 16), Hex.digit (c.toNat % 16)]
    else [c]

def write (s : String) : List Char := '"' :: s.toList.flatMap escape ++ ['"']

def unescape? : Char → Option Nat
  | '"' => some 34
  | '\\' => some 92
  | '/' => some 47
  | 'b' => some 8
  | 'f' => some 12
  | 'n' => some 10
  | 'r' => some 13
  | 't' => some 9
  | _ => none

def unit? (a b c d : Char) : Option Nat := do
  let a ← Hex.value? a
  let b ← Hex.value? b
  let c ← Hex.value? c
  let d ← Hex.value? d
  return ((a * 16 + b) * 16 + c) * 16 + d

def units : List Char → Option (List Nat × List Char)
  | [] => none
  | '"' :: rest => some ([], rest)
  | '\\' :: 'u' :: a :: b :: c :: d :: rest => do
    let n ← unit? a b c d
    (units rest).map (Prod.map (n :: ·) id)
  | '\\' :: c :: rest => do
    let n ← unescape? c
    (units rest).map (Prod.map (n :: ·) id)
  | c :: rest => if c.toNat < 32 then none else (units rest).map (Prod.map (c.toNat :: ·) id)

def scalar? (n : Nat) : Option Char := if n.isValidChar then some (Char.ofNat n) else none

/-- Joins each leading surrogate with the trailing one after it; alone, neither is a character. -/
def join? : List Nat → Option (List Char)
  | [] => some []
  | [n] => do return [← scalar? n]
  | m :: n :: ns =>
    if 0xd800 ≤ m ∧ m < 0xdc00 then
      if 0xdc00 ≤ n ∧ n < 0xe000 then do
        return Char.ofNat (0x10000 + (m - 0xd800) * 0x400 + (n - 0xdc00)) :: (← join? ns)
      else none
    else do
      let c ← scalar? m
      return c :: (← join? (n :: ns))

/-- Reads what follows an opening quote. -/
def read (cs : List Char) : Option (Option String × List Char) := do
  let (ns, rest) ← units cs
  return ((join? ns).map String.ofList, rest)

theorem length_units {cs rest : List Char} {ns : List Nat} (h : units cs = some (ns, rest)) :
    rest.length < cs.length := by
  fun_induction units cs generalizing ns rest with
  | case1 => cases h
  | case2 r =>
    cases h
    simp
  | case3 a b c d r ih =>
    simp only [bind, Option.bind_eq_some_iff, Option.map_eq_some_iff] at h
    obtain ⟨n, _, ⟨_, r'⟩, hu, hr⟩ := h
    cases hr
    have := ih hu
    simp only [id, List.length_cons]
    omega
  | case4 c r _ ih =>
    simp only [bind, Option.bind_eq_some_iff, Option.map_eq_some_iff] at h
    obtain ⟨n, _, ⟨_, r'⟩, hu, hr⟩ := h
    cases hr
    have := ih hu
    simp only [id, List.length_cons]
    omega
  | case5 => cases h
  | case6 c r _ _ _ _ ih =>
    simp only [Option.map_eq_some_iff] at h
    obtain ⟨⟨_, r'⟩, hu, hr⟩ := h
    cases hr
    have := ih hu
    simp only [id, List.length_cons]
    omega

theorem length_read {cs rest : List Char} {s : Option String} (h : read cs = some (s, rest)) :
    rest.length < cs.length := by
  simp only [read, bind, Option.bind_eq_some_iff] at h
  obtain ⟨⟨ns, r⟩, hu, hr⟩ := h
  cases hr
  exact length_units hu

theorem units_escape (c : Char) (rest : List Char) :
    units (escape c ++ rest) = (units rest).map (Prod.map (c.toNat :: ·) id) := by
  unfold escape
  split
  case h_8 =>
    split
    · have h1 := Hex.value?_digit (c.toNat / 16) (by omega)
      have h2 := Hex.value?_digit (c.toNat % 16) (by omega)
      have h0 : Hex.value? '0' = some 0 := rfl
      simp only [List.cons_append, List.nil_append, units, unit?, h0, h1, h2, Option.bind_eq_bind,
        Option.bind_some, Option.pure_def]
      rw [show ((0 * 16 + 0) * 16 + c.toNat / 16) * 16 + c.toNat % 16 = c.toNat by omega]
    · rw [List.singleton_append, units]
      all_goals grind
  all_goals simp [units, unescape?]

theorem units_flatMap_escape (cs rest : List Char) :
    units (cs.flatMap escape ++ '"' :: rest) = some (cs.map Char.toNat, rest) := by
  induction cs with
  | nil => simp [units]
  | cons c cs ih => simp [units_escape, ih]

theorem isValidChar_toNat (c : Char) : c.toNat.isValidChar := c.valid

theorem scalar?_toNat (c : Char) : scalar? c.toNat = some c := by
  rw [scalar?, if_pos (isValidChar_toNat c), Char.ofNat_toNat]

theorem join?_map_toNat (cs : List Char) : join? (cs.map Char.toNat) = some cs := by
  induction cs with
  | nil => rfl
  | cons c cs ih =>
    cases cs with
    | nil => simp [join?, scalar?_toNat]
    | cons d cs =>
      have hc : ¬(0xd800 ≤ c.toNat ∧ c.toNat < 0xdc00) := by
        have := isValidChar_toNat c
        unfold Nat.isValidChar at this
        omega
      simp only [List.map_cons] at ih
      simp [join?, hc, scalar?_toNat, ih]

theorem read_write (s : String) (rest : List Char) :
    read ((write s).tail ++ rest) = some (some s, rest) := by
  simp [read, write, units_flatMap_escape, join?_map_toNat]

end PlanComparison.StringLiteral
