import PlanComparison.Json.Basic
import PlanComparison.Json.NumeralLiteral
import PlanComparison.Json.StringLiteral

/-!
The tokens of a JSON text. Where no token can be read there is a token `bad`, and none after it.
-/

namespace PlanComparison

inductive Token where
  | openArray
  | closeArray
  | openObject
  | closeObject
  | comma
  | colon
  | string (value : Option String)
  | scalar (value : Json)
  | bad

namespace Token

def isBlank (c : Char) : Bool := c == ' ' || c == '\t' || c == '\n' || c == '\r'

def read : List Char → Option (Token × List Char)
  | '[' :: cs => some (openArray, cs)
  | ']' :: cs => some (closeArray, cs)
  | '{' :: cs => some (openObject, cs)
  | '}' :: cs => some (closeObject, cs)
  | ',' :: cs => some (comma, cs)
  | ':' :: cs => some (colon, cs)
  | 'n' :: 'u' :: 'l' :: 'l' :: cs => some (scalar .null, cs)
  | 't' :: 'r' :: 'u' :: 'e' :: cs => some (scalar (.bool true), cs)
  | 'f' :: 'a' :: 'l' :: 's' :: 'e' :: cs => some (scalar (.bool false), cs)
  | '"' :: cs => (StringLiteral.read cs).map (Prod.map string id)
  | cs => (Numeral.read cs).map (Prod.map (fun x => scalar (.number x)) id)

theorem length_read {cs rest : List Char} {t : Token} (h : read cs = some (t, rest)) :
    rest.length < cs.length := by
  unfold read at h
  split at h
  case h_10 cs =>
    obtain ⟨⟨s, r⟩, hs, hr⟩ := Option.map_eq_some_iff.mp h
    cases hr
    have := StringLiteral.length_read hs
    simp only [id, List.length_cons]
    omega
  case h_11 =>
    obtain ⟨⟨x, r⟩, hx, hr⟩ := Option.map_eq_some_iff.mp h
    cases hr
    exact Numeral.length_read hx
  all_goals
    cases h
    simp only [List.length_cons]
    omega

def ofText (cs : List Char) : List Token :=
  match cs with
  | [] => []
  | c :: cs =>
    if isBlank c then ofText cs
    else
      match _h : read (c :: cs) with
      | none => [bad]
      | some (t, rest) => t :: ofText rest
termination_by cs.length
decreasing_by
  · simp
  · exact length_read _h

end Token

end PlanComparison
