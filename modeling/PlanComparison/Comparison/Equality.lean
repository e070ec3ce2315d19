import PlanComparison.Comparison.Evaluation

namespace PlanComparison

structure Equality where
  left : Term
  right : Term
  deriving DecidableEq

namespace Equality

def toComparison (e : Equality) : Comparison := ⟨.equal, e.left, e.right⟩

def ofComparison (c : Comparison) : Except Error Equality :=
  if c.op = .equal then .ok ⟨c.left, c.right⟩ else .error (.notEquality c)

theorem ofComparison_toComparison (e : Equality) : ofComparison e.toComparison = .ok e := rfl

theorem toComparison_of_ofComparison {c : Comparison} {e : Equality}
    (h : ofComparison c = .ok e) : e.toComparison = c := by
  unfold ofComparison at h
  split at h
  · rename_i hop
    cases h
    rw [toComparison, ← hop]
  · cases h

def text (e : Equality) : String := e.toComparison.text

def isGround (e : Equality) : Bool := e.toComparison.isGround

def isNumeric (e : Equality) : Bool := e.toComparison.isNumeric

def vars (e : Equality) : List String := e.toComparison.vars

def contains (e : Equality) (t : Term) : Bool := e.toComparison.contains t

def same (e f : Equality) : Bool := e.toComparison.same f.toComparison

def isEvaluable (e : Equality) : Bool := e.toComparison.isEqualityEvaluable

def evaluate (e : Equality) : Logged (Except Error Bool) := e.toComparison.evaluate

end Equality

end PlanComparison
