import PlanComparison.Error

/-!
How a fresh name is formed: the name it replaces, a separator and an index.
A separator is accepted if it is not empty and has no digit, so that the index is exactly the run
of digits at the end of a fresh name.
-/

namespace PlanComparison

structure Scheme where
  separator : String := "_"
  firstIndex : UInt64 := 0
  deriving DecidableEq

namespace Scheme

def check (s : Scheme) : Except Error Scheme :=
  if s.separator.isEmpty then .error .emptySeparator
  else if s.separator.toList.any fun c => (Digit.ofChar? c).isSome then
    .error (.digitInSeparator s.separator)
  else .ok s

def freshName (s : Scheme) (name : String) (index : Nat) : String :=
  name ++ s.separator ++ decimalText index

end Scheme

end PlanComparison
