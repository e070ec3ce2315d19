import PlanComparison.Json.Reading
import PlanComparison.Json.Render
import PlanComparison.Renaming.Scheme

namespace PlanComparison.Scheme

open Read

def toJson (s : Scheme) : Json :=
  .record [("separator", .text s.separator), ("first_index", .natural s.firstIndex.toNat)]

structure Fields where
  separator : Option String
  firstIndex : Option UInt64

def ofJson (v : Json) : Read Scheme := do
  let members ← v.recordMembers ["separator", "first_index"]
  let found ← members.foldlM (fun (found : Fields) (m : Json.Member) =>
    match m with
    | (some "separator", v) => do
      return { found with separator := ← once found.separator Json.readString v }
    | (some "first_index", v) => do
      return { found with firstIndex := ← once found.firstIndex Json.readIndex v }
    | m => Json.skip found m) ⟨none, none⟩
  let default : Scheme := {}
  return ⟨found.separator.getD default.separator, found.firstIndex.getD default.firstIndex⟩

def read (text : String) : Read Scheme := do accept (← Json.readText ofJson text).check

end PlanComparison.Scheme
