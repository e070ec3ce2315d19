import PlanComparison.Json.NumberReader

/-!
JSON values, as far as a text can be read. A string is `none` if it has an escaped surrogate
without its partner, since it then has no text. Where the text stops being JSON there is a value
`broken`, and every array or object that is open at that point ends with one.
-/

namespace PlanComparison

inductive Json where
  | null
  | bool (value : Bool)
  | number (value : Numeral)
  | string (value : Option String)
  | array (items : List Json)
  | object (members : List (Option String × Json))
  | broken

namespace Json

abbrev Member := Option String × Json

def text (s : String) : Json := string (some s)

def record (fields : List (String × Json)) : Json := object (fields.map fun f => (some f.1, f.2))

def natural (n : Nat) : Json := number ⟨false, Digits.ofNat n, [], none⟩

def isBroken : Json → Bool
  | broken => true
  | _ => false

def isIntact : Json → Bool
  | broken => false
  | array items => !items.getLast?.any isBroken
  | object members => !members.getLast?.any fun m => m.2.isBroken
  | _ => true

/-- Whether the value has at most `depth` brackets open at once, and no number in it is refused and
every string is a text. -/
def isSound (reader : NumberReader) : Nat → Json → Bool
  | _, null => true
  | _, bool _ => true
  | _, number x => (reader x).isSome
  | _, string s => s.isSome
  | depth + 1, array items => items.all (isSound reader depth)
  | depth + 1, object members => members.all fun m => m.1.isSome && isSound reader depth m.2
  | _, _ => false

end Json

end PlanComparison
