import PlanComparison.Comparison.Basic
import PlanComparison.Text.Quoted

namespace PlanComparison

inductive Error where
  | notFinite (value : Binary64)
  | operandCount (op : Operator) (count : Nat)
  | missingFirst (op : Comparator)
  | missingSecond (op : Comparator)
  | notEquality (c : Comparison)
  | emptySeparator
  | digitInSeparator (separator : String)
  | termNotEvaluable (t : Term)
  | comparisonNotEvaluable (c : Comparison)
  | divisionByZero (t : Term)
  | nonFinite (t : Term)
  deriving DecidableEq

namespace Error

inductive Kind where
  | invalidArgument
  | notEvaluable
  | divisionByZero
  | nonFinite
  deriving DecidableEq

def kind : Error → Kind
  | termNotEvaluable _ => .notEvaluable
  | comparisonNotEvaluable _ => .notEvaluable
  | divisionByZero _ => .divisionByZero
  | nonFinite _ => .nonFinite
  | _ => .invalidArgument

def detail : Error → String
  | notFinite value => "numeric literal " ++ value.text ++ " is not finite"
  | operandCount op count =>
    "operator " ++ op.symbol ++ " expects " ++ decimalText op.arity ++ " operand(s), got " ++
      decimalText count
  | missingFirst op => "comparison " ++ op.symbol ++ ": missing first argument"
  | missingSecond op => "comparison " ++ op.symbol ++ ": missing second argument"
  | notEquality c => c.text ++ " is not an equality comparison"
  | emptySeparator => "standardize config: separator must not be empty"
  | digitInSeparator separator =>
    "standardize config: separator " ++ Quoted.quote separator ++ " must not contain digits"
  | termNotEvaluable t => "term " ++ t.text
  | comparisonNotEvaluable c => "comparison function " ++ c.text
  | divisionByZero t => "division by zero in " ++ t.text
  | nonFinite t => "non-finite result in " ++ t.text

def message (e : Error) : String :=
  match e.kind with
  | .invalidArgument => "Invalid argument: " ++ e.detail
  | .notEvaluable => e.detail ++ ": is not evaluable"
  | .divisionByZero => "Arithmetic error: " ++ e.detail
  | .nonFinite => "Arithmetic error: " ++ e.detail

end Error

end PlanComparison
