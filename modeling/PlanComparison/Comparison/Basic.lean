import PlanComparison.Term.Variables

namespace PlanComparison

inductive Comparator where
  | equal
  | less
  | lessEqual
  | greater
  | greaterEqual
  | notEqual
  deriving DecidableEq

namespace Comparator

def all : List Comparator := [equal, less, lessEqual, greater, greaterEqual, notEqual]

def symbol : Comparator → String
  | equal => "="
  | less => "<"
  | lessEqual => "<="
  | greater => ">"
  | greaterEqual => ">="
  | notEqual => "!="

def holds : Comparator → Number → Number → Bool
  | equal, x, y => x.same y
  | less, x, y => x.lt y
  | lessEqual, x, y => x.le y
  | greater, x, y => y.lt x
  | greaterEqual, x, y => y.le x
  | notEqual, x, y => !x.same y

end Comparator

structure Comparison where
  op : Comparator
  left : Term
  right : Term
  deriving DecidableEq

namespace Comparison

def text (c : Comparison) : String :=
  "(" ++ c.op.symbol ++ " " ++ c.left.text ++ " " ++ c.right.text ++ ")"

def isGround (c : Comparison) : Bool := c.left.isGround && c.right.isGround

def isNumeric (c : Comparison) : Bool := c.left.isNumeric && c.right.isNumeric

def vars (c : Comparison) : List String :=
  distinct (c.left.occurrences ++ c.right.occurrences)

def contains (c : Comparison) (t : Term) : Bool := c.left.contains t || c.right.contains t

def same (c d : Comparison) : Bool := c.op == d.op && c.left.same d.left && c.right.same d.right

end Comparison

end PlanComparison
