import PlanComparison.Json.Term
import PlanComparison.Substitution

namespace PlanComparison.Substitution

open Read

def toJson (s : Substitution) : Json :=
  .record [("map", .record (s.entries.map fun e => (e.1, e.2.toJson)))]

section Numbers

variable (reader : NumberReader)

/-- The terms stand within two brackets. -/
def readBinding (m : Json.Member) : Read (String × Term) :=
  return (← ofOption m.1, ← Term.ofJson reader (Term.bracketLimit - 2) m.2)

def readBindings : Json → Read Substitution
  | .object members => return OrderedMap.ofList (← members.mapM (readBinding reader))
  | _ => malformed

def ofJson (v : Json) : Read Substitution := v.readSole "map" (readBindings reader)

def read (text : String) : Read Substitution := Json.readText (ofJson reader) text

end Numbers

end PlanComparison.Substitution
