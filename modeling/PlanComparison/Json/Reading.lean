import PlanComparison.Error
import PlanComparison.Json.Parse

/-!
Reading values from JSON. A record is an object with its fields in any order, or an array of its
fields in their own order; what else an object has is passed over. Fields are read in the order in
which they stand in the text, and the first fault in that order is the one that counts.
-/

namespace PlanComparison

inductive ReadError where
  /-- The text is not JSON, or not of the form that is read. -/
  | malformed
  /-- The parts are well formed and do not fit together. -/
  | rejected (e : Error)
  deriving DecidableEq

abbrev Read := Except ReadError

namespace Read

def malformed {α : Type} : Read α := .error .malformed

def ofOption {α : Type} : Option α → Read α
  | some a => .ok a
  | none => malformed

def accept {α : Type} : Except Error α → Read α
  | .ok a => .ok a
  | .error e => .error (.rejected e)

def once {α : Type} (slot : Option α) (read : Json → Read α) (v : Json) : Read (Option α) :=
  match slot with
  | none => return some (← read v)
  | some _ => malformed

end Read

namespace Json

open Read

def readString : Json → Read String
  | string (some s) => .ok s
  | _ => malformed

def readNumber (reader : NumberReader) : Json → Read Binary64
  | number x => ofOption (reader x)
  | _ => malformed

def natural? : Json → Option Nat
  | number x => if x.isInteger && !x.negative then some (Digits.value x.whole) else none
  | _ => none

def readIndex (v : Json) : Read UInt64 := do
  let n ← ofOption v.natural?
  if n < UInt64.size then return UInt64.ofNat n else malformed

def readList {α : Type} (item : Json → Read α) : Json → Read (List α)
  | array items => items.mapM item
  | _ => malformed

/-- The name of a case without content, which may also be given as the key of `null`. Inside a
tagged value an empty object does for `null`. -/
def readName (inside : Bool) : Json → Read String
  | string (some s) => .ok s
  | object [(some s, null)] => .ok s
  | object [(some s, object [])] => if inside then .ok s else malformed
  | _ => malformed

/-- The members of a record, with the names of its fields put to the items of an array. An item
too many is a broken member. -/
def recordMembers (fields : List String) : Json → Read (List Member)
  | object members => .ok members
  | array items =>
    .ok ((fields.map some).zip items ++ if fields.length < items.length then [(none, broken)] else [])
  | _ => malformed

def skip {σ : Type} (found : σ) (m : Member) : Read σ :=
  if m.1.isSome && m.2.isIntact then return found else malformed

def readSole {α : Type} (field : String) (read : Json → Read α) (v : Json) : Read α := do
  let members ← recordMembers [field] v
  let found ← members.foldlM (fun (found : Option α) (m : Member) =>
    if m.1 = some field then once found read m.2 else skip found m) none
  ofOption found

def readText {α : Type} (read : Json → Read α) (text : String) : Read α := do
  let (v, rest) := parse text
  let a ← read v
  if rest.isEmpty then return a else malformed

end Json

end PlanComparison
