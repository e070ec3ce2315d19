import PlanComparison.Event
import PlanComparison.OrderedMap
import PlanComparison.Renaming.Scheme

/-!
The names chosen so far for the variables of expressions that are made distinct from others.
Every name gets one image, chosen at its first sight and numbered in that order.
-/

namespace PlanComparison

structure Context where
  scheme : Scheme
  nextIndex : UInt64
  images : OrderedMap String

namespace Context

def new : Context := ⟨{}, 0, .empty⟩

def withScheme (s : Scheme) : Except Error Context := do
  let s ← s.check
  return ⟨s, s.firstIndex, .empty⟩

def fresh (c : Context) (name : String) : String := c.scheme.freshName name c.nextIndex.toNat

/-- Gives `name` a fresh image. After the last index the count starts again at zero. -/
def record (c : Context) (name : String) : Context :=
  { c with nextIndex := c.nextIndex + 1, images := c.images.insert name (c.fresh name) }

end Context

abbrev Renaming := StateT Context Logged

def imageOf (name : String) : Renaming String := do
  let c ← get
  match c.images.get? name with
  | some image => return image
  | none =>
    let image := c.fresh name
    Logged.report (.renamed name image)
    set (c.record name)
    return image

end PlanComparison
