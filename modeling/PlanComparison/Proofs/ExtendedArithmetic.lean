import PlanComparison.Comparison.Basic
import PlanComparison.Term.Evaluation

namespace PlanComparison

namespace Binary64

def isZero : Binary64 → Bool
  | finite x => x.isZero
  | _ => false

def neg : Binary64 → Binary64
  | finite x => finite x.neg
  | infinite negative => infinite !negative
  | nan => nan

def add : Binary64 → Binary64 → Binary64
  | finite x, finite y => x.add y
  | finite _, infinite t => infinite t
  | infinite s, finite _ => infinite s
  | infinite s, infinite t => if s = t then infinite s else nan
  | _, _ => nan

def sub (x y : Binary64) : Binary64 := x.add y.neg

def mul : Binary64 → Binary64 → Binary64
  | finite x, finite y => x.mul y
  | finite x, infinite t => if x.isZero then nan else infinite (x.negative ^^ t)
  | infinite s, finite y => if y.isZero then nan else infinite (s ^^ y.negative)
  | infinite s, infinite t => infinite (s ^^ t)
  | _, _ => nan

def div : Binary64 → Binary64 → Binary64
  | finite x, finite y => x.div y
  | finite x, infinite t => ofRank (x.negative ^^ t) 0
  | infinite s, finite y => infinite (s ^^ y.negative)
  | _, _ => nan

def same : Binary64 → Binary64 → Bool
  | finite x, finite y => x.same y
  | infinite s, infinite t => s == t
  | _, _ => false

def lt : Binary64 → Binary64 → Bool
  | finite x, finite y => x.lt y
  | finite _, infinite t => !t
  | infinite s, finite _ => s
  | infinite s, infinite t => s && !t
  | _, _ => false

def le : Binary64 → Binary64 → Bool
  | finite x, finite y => x.le y
  | finite _, infinite t => !t
  | infinite s, finite _ => s
  | infinite s, infinite t => s || !t
  | _, _ => false

end Binary64

def BinaryOp.extended : BinaryOp → Binary64 → Binary64 → Binary64
  | add => Binary64.add
  | subtract => Binary64.sub
  | multiply => Binary64.mul
  | divide => Binary64.div

theorem BinaryOp.extended_finite (op : BinaryOp) (x y : Number) :
    op.extended (.finite x) (.finite y) = op.apply x y := by
  cases op <;> rfl

/-- What is not a number is unequal to everything. -/
def Comparator.extended : Comparator → Binary64 → Binary64 → Bool
  | equal, x, y => x.same y
  | less, x, y => x.lt y
  | lessEqual, x, y => x.le y
  | greater, x, y => y.lt x
  | greaterEqual, x, y => y.le x
  | notEqual, x, y => !x.same y

theorem Comparator.extended_finite (op : Comparator) (x y : Number) :
    op.extended (.finite x) (.finite y) = op.holds x y := by
  cases op <;> rfl

end PlanComparison
