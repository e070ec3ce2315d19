import PlanComparison.Json.Token

/-!
From tokens to a JSON value, token by token. The state is what may come next together with the
places, from the innermost outwards, that wait for the values still open.
-/

namespace PlanComparison.Json

/-- Where a value goes: after the items or members before it, which are kept in reverse. -/
inductive Slot where
  | item (before : List Json)
  | member (before : List Member) (key : Option String)

inductive Expecting where
  | value
  | firstItem
  | afterItem (items : List Json)
  | firstKey
  | nextKey (members : List Member)
  | colon (members : List Member) (key : Option String)
  | afterMember (members : List Member)

inductive Step where
  | next (state : Expecting) (slots : List Slot)
  | done (value : Json)
  | stuck

def deliver (value : Json) : List Slot → Step
  | [] => .done value
  | .item before :: slots => .next (.afterItem (value :: before)) slots
  | .member before key :: slots => .next (.afterMember ((key, value) :: before)) slots

def begin (slots : List Slot) : Token → Step
  | .scalar value => deliver value slots
  | .string s => deliver (string s) slots
  | .openArray => .next .firstItem slots
  | .openObject => .next .firstKey slots
  | _ => .stuck

def step : Expecting → List Slot → Token → Step
  | .value, slots, t => begin slots t
  | .firstItem, slots, .closeArray => deliver (array []) slots
  | .firstItem, slots, t => begin (.item [] :: slots) t
  | .afterItem items, slots, .comma => .next .value (.item items :: slots)
  | .afterItem items, slots, .closeArray => deliver (array items.reverse) slots
  | .firstKey, slots, .closeObject => deliver (object []) slots
  | .firstKey, slots, .string key => .next (.colon [] key) slots
  | .nextKey members, slots, .string key => .next (.colon members key) slots
  | .colon members key, slots, .colon => .next .value (.member members key :: slots)
  | .afterMember members, slots, .comma => .next (.nextKey members) slots
  | .afterMember members, slots, .closeObject => deliver (object members.reverse) slots
  | _, _, _ => .stuck

def brokenArray (items : List Json) : Json := array (broken :: items).reverse

def brokenObject (members : List Member) : Json := object ((none, broken) :: members).reverse

def Expecting.broken : Expecting → Json
  | value => .broken
  | firstItem => brokenArray []
  | afterItem items => brokenArray items
  | firstKey => brokenObject []
  | nextKey members => brokenObject members
  | colon members _ => brokenObject members
  | afterMember members => brokenObject members

def abandon (value : Json) : List Slot → Json
  | [] => value
  | .item before :: slots => abandon (brokenArray (value :: before)) slots
  | .member before key :: slots => abandon (brokenObject ((key, value) :: before)) slots

def run (state : Expecting) (slots : List Slot) : List Token → Json × List Token
  | [] => (abandon state.broken slots, [])
  | t :: ts =>
    match step state slots t with
    | .next state slots => run state slots ts
    | .done value => (value, ts)
    | .stuck => (abandon state.broken slots, [])

def parse (text : String) : Json × List Token := run .value [] (Token.ofText text.toList)

end PlanComparison.Json
