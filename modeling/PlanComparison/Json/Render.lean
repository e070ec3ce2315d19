import PlanComparison.Json.Basic
import PlanComparison.Json.StringLiteral

namespace PlanComparison.Json

/-- A string that has no text is written as a surrogate without its partner. -/
def stringChars : Option String → List Char
  | some s => StringLiteral.write s
  | none => ['"', '\\', 'u', 'd', '8', '0', '0', '"']

mutual

def chars : Json → List Char
  | null => ['n', 'u', 'l', 'l']
  | bool true => ['t', 'r', 'u', 'e']
  | bool false => ['f', 'a', 'l', 's', 'e']
  | number x => x.text.toList
  | string s => stringChars s
  | array items => '[' :: itemChars [] items ++ [']']
  | object members => '{' :: memberChars [] members ++ ['}']
  | broken => []

def itemChars (separator : List Char) : List Json → List Char
  | [] => []
  | v :: vs => separator ++ chars v ++ itemChars [','] vs

def memberChars (separator : List Char) : List (Option String × Json) → List Char
  | [] => []
  | (k, v) :: ms => separator ++ stringChars k ++ [':'] ++ chars v ++ memberChars [','] ms

end

def render (v : Json) : String := String.ofList v.chars

end PlanComparison.Json
