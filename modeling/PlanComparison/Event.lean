import PlanComparison.Comparison.Basic

namespace PlanComparison

inductive Event where
  | evaluated (c : Comparison) (result : Bool)
  | refused (c : Comparison)
  | renamed (name image : String)
  deriving DecidableEq

inductive Level where
  | debug
  | trace
  deriving DecidableEq

inductive Datum where
  | text (s : String)
  | bool (b : Bool)
  deriving DecidableEq

structure Entry where
  level : Level
  message : String
  fields : List (String × Datum)
  deriving DecidableEq

namespace Event

def level : Event → Level
  | evaluated _ _ => .debug
  | refused _ => .debug
  | renamed _ _ => .trace

def message : Event → String
  | evaluated _ _ => "evaluated comparison"
  | refused _ => "comparison is not evaluable"
  | renamed _ _ => "standardized variable"

def fields : Event → List (String × Datum)
  | evaluated c result => [("expression", .text c.text), ("result", .bool result)]
  | refused c => [("expression", .text c.text)]
  | renamed name image => [("original", .text name), ("image", .text image)]

def entry (e : Event) : Entry := ⟨e.level, e.message, e.fields⟩

end Event

@[ext]
structure Logged (α : Type) where
  value : α
  events : List Event

namespace Logged

variable {α β : Type}

def pure (a : α) : Logged α := ⟨a, []⟩

def bind (x : Logged α) (f : α → Logged β) : Logged β :=
  ⟨(f x.value).value, x.events ++ (f x.value).events⟩

instance : Monad Logged where
  pure := Logged.pure
  bind := Logged.bind

def report (e : Event) : Logged Unit := ⟨(), [e]⟩

def log (x : Logged α) : List Entry := x.events.map Event.entry

@[simp] theorem value_pure (a : α) : (Pure.pure a : Logged α).value = a := rfl

@[simp] theorem events_pure (a : α) : (Pure.pure a : Logged α).events = [] := rfl

@[simp] theorem value_bind (x : Logged α) (f : α → Logged β) :
    (x >>= f).value = (f x.value).value := rfl

@[simp] theorem events_bind (x : Logged α) (f : α → Logged β) :
    (x >>= f).events = x.events ++ (f x.value).events := rfl

instance : LawfulMonad Logged := by
  refine LawfulMonad.mk' Logged ?_ ?_ ?_
  · intro α x
    exact Logged.ext rfl (List.append_nil x.events)
  · intro α β a f
    rfl
  · intro α β γ x f g
    exact Logged.ext rfl (List.append_assoc x.events _ _)

end Logged

end PlanComparison
