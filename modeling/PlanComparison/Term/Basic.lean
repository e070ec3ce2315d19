import PlanComparison.Number.Numeral

namespace PlanComparison

inductive BinaryOp where
  | add
  | subtract
  | multiply
  | divide
  deriving DecidableEq

inductive Operator where
  | binary (op : BinaryOp)
  | minus
  deriving DecidableEq

namespace BinaryOp

def symbol : BinaryOp → String
  | add => "+"
  | subtract => "-"
  | multiply => "*"
  | divide => "/"

end BinaryOp

namespace Operator

def all : List Operator :=
  [.binary .add, .binary .subtract, .binary .multiply, .binary .divide, .minus]

def arity : Operator → Nat
  | binary _ => 2
  | minus => 1

/-- Negation and subtraction are told apart by their operands alone. -/
def symbol : Operator → String
  | binary op => op.symbol
  | minus => "-"

end Operator

inductive Term where
  | var (name : String)
  | const (name : String)
  | num (value : Number)
  | minus (operand : Term)
  | binary (op : BinaryOp) (left right : Term)
  deriving DecidableEq

namespace Term

def operator? : Term → Option Operator
  | minus _ => some .minus
  | binary op _ _ => some (.binary op)
  | _ => none

def operands : Term → List Term
  | minus a => [a]
  | binary _ a b => [a, b]
  | _ => []

theorem length_operands (t : Term) (op : Operator) (h : t.operator? = some op) :
    t.operands.length = op.arity := by
  cases t <;> cases h <;> rfl

def text : Term → String
  | var name => name
  | const name => name
  | num x => x.text
  | minus a => "(" ++ Operator.minus.symbol ++ " " ++ a.text ++ ")"
  | binary op a b => "(" ++ op.symbol ++ " " ++ a.text ++ " " ++ b.text ++ ")"

def isGround : Term → Bool
  | var _ => false
  | const _ => true
  | num _ => true
  | minus a => a.isGround
  | binary _ a b => a.isGround && b.isGround

def isNumeric : Term → Bool
  | var _ => false
  | const _ => false
  | num _ => true
  | minus a => a.isNumeric
  | binary _ a b => a.isNumeric && b.isNumeric

/-- Equality up to the signs of zeros. -/
def same : Term → Term → Bool
  | var a, var b => a == b
  | const a, const b => a == b
  | num x, num y => x.same y
  | minus a, minus b => a.same b
  | binary op a b, binary op' a' b' => op == op' && a.same a' && b.same b'
  | _, _ => false

def contains : Term → Term → Bool
  | u@(minus a), t => u.same t || a.contains t
  | u@(binary _ a b), t => u.same t || a.contains t || b.contains t
  | u, t => u.same t

end Term

end PlanComparison
