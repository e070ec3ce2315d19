import PlanComparison.Comparison.Equality
import PlanComparison.Json.Term

namespace PlanComparison

open Read

namespace Comparator

def name : Comparator → String
  | equal => "Equal"
  | less => "Less"
  | lessEqual => "LessEqual"
  | greater => "Greater"
  | greaterEqual => "GreaterEqual"
  | notEqual => "NotEqual"

def ofName? (s : String) : Option Comparator := all.find? fun op => op.name == s

def toJson (op : Comparator) : Json := .text op.name

def ofJson (v : Json) : Read Comparator := do ofOption (ofName? (← v.readName false))

def read (text : String) : Read Comparator := Json.readText ofJson text

end Comparator

namespace Comparison

def toJson (c : Comparison) : Json :=
  .record [("op", c.op.toJson), ("arg1", c.left.toJson), ("arg2", c.right.toJson)]

structure Fields where
  op : Option Comparator
  left : Option Term
  right : Option Term

def ofJson (reader : NumberReader) (v : Json) : Read Comparison := do
  let operand := Term.ofJson reader (Term.bracketLimit - 1)
  let members ← v.recordMembers ["op", "arg1", "arg2"]
  let found ← members.foldlM (fun (found : Fields) (m : Json.Member) =>
    match m with
    | (some "op", v) => do return { found with op := ← once found.op Comparator.ofJson v }
    | (some "arg1", v) => do return { found with left := ← once found.left operand v }
    | (some "arg2", v) => do return { found with right := ← once found.right operand v }
    | m => Json.skip found m) ⟨none, none, none⟩
  return ⟨← ofOption found.op, ← ofOption found.left, ← ofOption found.right⟩

def read (reader : NumberReader) (text : String) : Read Comparison :=
  Json.readText (ofJson reader) text

end Comparison

namespace Equality

def toJson (e : Equality) : Json := e.toComparison.toJson

def ofJson (reader : NumberReader) (v : Json) : Read Equality := do
  accept (ofComparison (← Comparison.ofJson reader v))

def read (reader : NumberReader) (text : String) : Read Equality :=
  Json.readText (ofJson reader) text

end Equality

end PlanComparison
