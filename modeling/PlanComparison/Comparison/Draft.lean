import PlanComparison.Error

namespace PlanComparison

structure Draft where
  op : Comparator
  left : Option Term
  right : Option Term

namespace Draft

def start (op : Comparator) : Draft := ⟨op, none, none⟩

def withLeft (d : Draft) (t : Term) : Draft := { d with left := some t }

def withRight (d : Draft) (t : Term) : Draft := { d with right := some t }

def finish (d : Draft) : Except Error Comparison :=
  match d.left, d.right with
  | none, _ => .error (.missingFirst d.op)
  | some _, none => .error (.missingSecond d.op)
  | some a, some b => .ok ⟨d.op, a, b⟩

end Draft

end PlanComparison
