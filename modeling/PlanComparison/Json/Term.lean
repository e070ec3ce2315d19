import PlanComparison.Json.Reading
import PlanComparison.Json.Render
import PlanComparison.Term.Construction

/-!
Terms in JSON: records with a tag for the kind of term.
A tagged term is read as a whole before its fields are looked at, so that all of it, with what is
passed over, has to be sound and within the limit of open brackets.
-/

namespace PlanComparison

namespace Operator

def name : Operator → String
  | binary .add => "Add"
  | binary .subtract => "Subtract"
  | binary .multiply => "Multiply"
  | binary .divide => "Divide"
  | minus => "Minus"

def ofName? (s : String) : Option Operator := all.find? fun op => op.name == s

def toJson (op : Operator) : Json := .text op.name

def ofJson (inside : Bool) (v : Json) : Read Operator := do
  Read.ofOption (ofName? (← v.readName inside))

def read (text : String) : Read Operator := Json.readText (ofJson false) text

end Operator

namespace Term

inductive Kind where
  | var
  | const
  | num
  | arithmetic
  deriving DecidableEq

def kind : Term → Kind
  | var _ => .var
  | const _ => .const
  | num _ => .num
  | minus _ => .arithmetic
  | binary _ _ _ => .arithmetic

namespace Kind

def all : List Kind := [var, const, num, arithmetic]

def tag : Kind → String
  | var => "Variable"
  | const => "Constant"
  | num => "Number"
  | arithmetic => "ArithmeticFunction"

/-- Inside a tagged value the place of the tag among all tags does for its text. -/
def ofJson (inside : Bool) (v : Json) : Read Kind :=
  match v with
  | .string (some s) => Read.ofOption (all.find? fun k => k.tag == s)
  | v => Read.ofOption (if inside then v.natural?.bind (all[·]?) else none)

end Kind

def fields : Term → List (String × Json)
  | var name => [("name", .text name)]
  | const name => [("name", .text name)]
  | num x => [("value", .number x.numeral)]
  | minus a =>
    [("op", Operator.minus.toJson),
      ("args", .array [.record (("type", .text a.kind.tag) :: a.fields)])]
  | binary op a b =>
    [("op", (Operator.binary op).toJson),
      ("args", .array [.record (("type", .text a.kind.tag) :: a.fields),
        .record (("type", .text b.kind.tag) :: b.fields)])]

def toJson (t : Term) : Json := .record (("type", .text t.kind.tag) :: t.fields)

def toBareJson (t : Term) : Json := .record t.fields

open Read

structure Arithmetic where
  op : Option Operator
  operands : Option (List Term)

def readArithmetic (inside : Bool) (operand : Json → Read Term) (v : Json) : Read Term := do
  let members ← v.recordMembers ["op", "args"]
  let found ← members.foldlM (fun (found : Arithmetic) (m : Json.Member) =>
    match m with
    | (some "op", v) => do
      return { found with op := ← once found.op (Operator.ofJson inside) v }
    | (some "args", v) => do
      return { found with operands := ← once found.operands (Json.readList operand) v }
    | m => Json.skip found m) ⟨none, none⟩
  accept (arithmetic (← ofOption found.op) (← ofOption found.operands))

section Numbers

variable (reader : NumberReader)

def readFields (inside : Bool) (operand : Json → Read Term) (v : Json) : Kind → Read Term
  | .var => return var (← v.readSole "name" Json.readString)
  | .const => return const (← v.readSole "name" Json.readString)
  | .num => do accept (literal (← v.readSole "value" (Json.readNumber reader)))
  | .arithmetic => readArithmetic inside operand v

def untag (inside : Bool) : Json → Read (Kind × Json)
  | .object members =>
    match members.partition fun m => m.1 == some "type" with
    | ([(_, tag)], fields) => return (← Kind.ofJson inside tag, .object fields)
    | _ => malformed
  | .array (tag :: fields) => return (← Kind.ofJson inside tag, .array fields)
  | _ => malformed

def readOperand : Nat → Json → Read Term
  | 0, _ => malformed
  | depth + 1, v => do
    let (kind, fields) ← untag true v
    readFields reader true (readOperand depth) fields kind

def ofJson (depth : Nat) (v : Json) : Read Term :=
  if v.isSound reader depth then do
    let (kind, fields) ← untag false v
    readFields reader true (readOperand reader depth) fields kind
  else malformed

/-- No text may have more brackets open at once. -/
def bracketLimit : Nat := 127

def read (text : String) : Read Term := Json.readText (ofJson reader bracketLimit) text

/-- Reads a term of known kind from its fields alone. Operands stand within two brackets. -/
def readBare (kind : Kind) (text : String) : Read Term :=
  Json.readText (fun v => readFields reader false (ofJson reader (bracketLimit - 2)) v kind) text

end Numbers

end Term

end PlanComparison
