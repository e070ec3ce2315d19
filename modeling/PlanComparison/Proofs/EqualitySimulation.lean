import PlanComparison.Proofs.TreeReading

/-!
Equalities in step with the comparisons they are. An equality may be stored as a comparison whose
operator is looked at where it comes in and never again. In this form or without an operator, it
goes through every transformation as the comparison does, and it has the same answers.
-/

namespace PlanComparison

structure Interface (α : Type) where
  apply : Substitution → α → α
  standardize : α → Renaming α
  op : α → Comparator
  isGround : α → Bool
  vars : α → List String
  contains : α → Term → Bool
  isEvaluable : α → Bool
  evaluate : α → Logged (Except Error Bool)
  text : α → String
  toJson : α → Json

structure EqualityForm (α : Type) extends Interface α where
  new : Term → Term → α
  narrow : Comparison → Except Error α
  read : String → Read α
  widen : α → Comparison

inductive Transformation where
  | apply (s : Substitution)
  | standardize
  | standardizeWith

inductive Origin where
  | new (left right : Term)
  | narrow (c : Comparison)
  | read (text : String)

def Comparison.interface : Interface Comparison where
  apply := Comparison.apply
  standardize := Comparison.standardize
  op := Comparison.op
  isGround := Comparison.isGround
  vars := Comparison.vars
  contains := Comparison.contains
  isEvaluable := Comparison.isEvaluable
  evaluate := Comparison.evaluate
  text := Comparison.text
  toJson := Comparison.toJson

def Equality.form (reader : NumberReader) : EqualityForm Equality where
  apply := Equality.apply
  standardize := Equality.standardize
  op e := e.toComparison.op
  isGround := Equality.isGround
  vars := Equality.vars
  contains := Equality.contains
  isEvaluable := Equality.isEvaluable
  evaluate := Equality.evaluate
  text := Equality.text
  toJson := Equality.toJson
  new := Equality.mk
  narrow := Equality.ofComparison
  read := Equality.read reader
  widen := Equality.toComparison

/-- An equality with its operator. The type does not say which operator that is. -/
structure StoredEquality where
  comparison : Comparison
  deriving DecidableEq

namespace StoredEquality

def narrow (c : Comparison) : Except Error StoredEquality :=
  if c.op = .equal then .ok ⟨c⟩ else .error (.notEquality c)

def ofJson (reader : NumberReader) (v : Json) : Read StoredEquality := do
  Read.accept (narrow (← Comparison.ofJson reader v))

/-- Transformations rebuild the stored comparison without a check, and the rule for equality says
what can be evaluated, whatever the operator is. -/
def form (reader : NumberReader) : EqualityForm StoredEquality where
  apply s x := ⟨x.comparison.apply s⟩
  standardize x := return ⟨← x.comparison.standardize⟩
  op x := x.comparison.op
  isGround x := x.comparison.isGround
  vars x := x.comparison.vars
  contains x := x.comparison.contains
  isEvaluable x := x.comparison.isEqualityEvaluable
  evaluate x := x.comparison.evaluate
  text x := x.comparison.text
  toJson x := x.comparison.toJson
  new a b := ⟨⟨.equal, a, b⟩⟩
  narrow := narrow
  read := Json.readText (ofJson reader)
  widen := comparison

end StoredEquality

def Equality.stored (e : Equality) : StoredEquality := ⟨e.toComparison⟩

namespace Interface

variable {α β : Type} (I : Interface α)

/-- With no context to continue, a new one is used and given up. -/
def perform (a : α) : Transformation → Renaming α
  | .apply s => return I.apply s a
  | .standardize => liftM ((I.standardize a).run' Context.new)
  | .standardizeWith => I.standardize a

def follow (steps : List Transformation) (a : α) : Renaming α := steps.foldlM I.perform a

structure Agrees (J : Interface β) (a : α) (b : β) : Prop where
  op : I.op a = J.op b
  isGround : I.isGround a = J.isGround b
  vars : I.vars a = J.vars b
  contains : ∀ t, I.contains a t = J.contains b t
  isEvaluable : I.isEvaluable a = J.isEvaluable b
  evaluate : I.evaluate a = J.evaluate b
  text : I.text a = J.text b
  toJson : I.toJson a = J.toJson b

structure Carries (J : Interface β) (f : α → β) : Prop where
  apply : ∀ s a, J.apply s (f a) = f (I.apply s a)
  standardize : ∀ a, J.standardize (f a) = f <$> I.standardize a

variable {I} {J : Interface β} {f : α → β}

theorem Carries.perform (h : I.Carries J f) (a : α) (step : Transformation) :
    J.perform (f a) step = f <$> I.perform a step := by
  cases step with
  | apply s => simp [Interface.perform, h.apply]
  | standardize => simp [Interface.perform, h.standardize]
  | standardizeWith => exact h.standardize a

theorem Carries.follow (h : I.Carries J f) (steps : List Transformation) (a : α) :
    J.follow steps (f a) = f <$> I.follow steps a :=
  foldlM_map f h.perform a steps

end Interface

theorem Equality.carries_toComparison (reader : NumberReader) :
    (Equality.form reader).Carries Comparison.interface Equality.toComparison where
  apply _ _ := rfl
  standardize := Equality.standardize_toComparison

namespace EqualityForm

variable {α : Type} (F : EqualityForm α)

def obtain : Origin → Option α
  | .new a b => some (F.new a b)
  | .narrow c => (F.narrow c).toOption
  | .read text => (F.read text).toOption

structure InStep (x : Logged (α × Context)) (y : Logged (Comparison × Context)) : Prop where
  op : F.op x.value.1 = .equal
  widen : F.widen x.value.1 = y.value.1
  narrow : F.narrow y.value.1 = .ok x.value.1
  context : x.value.2 = y.value.2
  events : x.events = y.events
  agrees : F.Agrees Comparison.interface x.value.1 y.value.1

structure Represents (reader : NumberReader) (f : Equality → α) : Prop extends
    (Equality.form reader).Carries F.toInterface f where
  new : ∀ a b, F.new a b = f ⟨a, b⟩
  narrow : ∀ c, F.narrow c = (Equality.ofComparison c).map f
  read : ∀ text, (F.read text).toOption = (Equality.read reader text).toOption.map f
  widen : ∀ e, F.widen (f e) = e.toComparison
  agrees : ∀ e, F.Agrees Comparison.interface (f e) e.toComparison

variable {F} {reader : NumberReader} {f : Equality → α}

theorem Represents.obtain (h : F.Represents reader f) (o : Origin) :
    F.obtain o = ((Equality.form reader).obtain o).map f := by
  cases o with
  | new a b => exact congrArg some (h.new a b)
  | narrow c =>
    rw [EqualityForm.obtain, h.narrow, toOption_map]
    rfl
  | read text => exact h.read text

theorem Represents.inStep_of_equality (h : F.Represents reader f) (steps : List Transformation)
    (e : Equality) (c : Context) :
    F.InStep ((F.follow steps (f e)).run c)
      ((Comparison.interface.follow steps e.toComparison).run c) := by
  -- Both runs are images of the run on `e`, which has no operator to lose.
  rw [h.toCarries.follow, (Equality.carries_toComparison reader).follow, StateT.run_map,
    StateT.run_map]
  obtain ⟨⟨last, d⟩, events⟩ := ((Equality.form reader).follow steps e).run c
  exact {
    op := (h.agrees last).op
    widen := h.widen last
    narrow := by
      change F.narrow last.toComparison = .ok (f last)
      rw [h.narrow, Equality.ofComparison_toComparison]
      rfl
    context := rfl
    events := rfl
    agrees := h.agrees last }

theorem Represents.inStep (h : F.Represents reader f) {o : Origin} {a : α} (ha : F.obtain o = some a)
    (steps : List Transformation) (c : Context) :
    F.InStep ((F.follow steps a).run c)
      ((Comparison.interface.follow steps (F.widen a)).run c) := by
  rw [h.obtain, Option.map_eq_some_iff] at ha
  obtain ⟨e, -, rfl⟩ := ha
  rw [h.widen]
  exact h.inStep_of_equality steps e c

end EqualityForm

theorem Equality.represents_form (reader : NumberReader) :
    (Equality.form reader).Represents reader id where
  apply _ _ := rfl
  standardize e := (id_map (f := Renaming) e.standardize).symm
  new _ _ := rfl
  narrow c := (id_map (f := Except Error) (ofComparison c)).symm
  read _ := Option.map_id'.symm
  widen _ := rfl
  agrees _ := ⟨rfl, rfl, rfl, fun _ => rfl, rfl, rfl, rfl, rfl⟩

namespace StoredEquality

theorem narrow_eq_map (c : Comparison) :
    narrow c = (Equality.ofComparison c).map Equality.stored := by
  rw [narrow, Equality.ofComparison]
  split
  · rename_i hop
    rw [Except.map, Equality.stored, Equality.toComparison, ← hop]
  · rfl

theorem ofJson_eq_map (reader : NumberReader) (v : Json) :
    ofJson reader v = Equality.stored <$> Equality.ofJson reader v := by
  rw [ofJson, Equality.ofJson, map_bind]
  apply bind_congr
  intro c
  rw [narrow_eq_map]
  cases Equality.ofComparison c <;> rfl

theorem represents_form (reader : NumberReader) :
    (form reader).Represents reader Equality.stored where
  apply _ _ := rfl
  standardize e := by
    change (return ⟨← e.toComparison.standardize⟩) = Equality.stored <$> e.standardize
    rw [e.standardize_toComparison, bind_map_left]
    exact (map_eq_pure_bind Equality.stored e.standardize).symm
  new _ _ := rfl
  narrow := narrow_eq_map
  read := Read.toOption_readText_of_map (ofJson_eq_map reader)
  widen _ := rfl
  agrees _ := ⟨rfl, rfl, rfl, fun _ => rfl, rfl, rfl, rfl, rfl⟩

-- With another operator, what is stored does not answer as the comparison does.
example (reader : NumberReader) :
    let c : Comparison := ⟨.less, .const "a", .const "b"⟩
    (form reader).isEvaluable ⟨c⟩ = true ∧ Comparison.interface.isEvaluable c = false := ⟨rfl, rfl⟩

end StoredEquality

namespace Equality

theorem runs_in_step_with_its_comparison (reader : NumberReader) (o : Origin)
    (steps : List Transformation) (c : Context) :
    let F := form reader
    let G := StoredEquality.form reader
    G.obtain o = (F.obtain o).map stored ∧
      (∀ e, F.obtain o = some e → F.InStep ((F.follow steps e).run c)
        ((Comparison.interface.follow steps e.toComparison).run c)) ∧
      ∀ x, G.obtain o = some x → G.InStep ((G.follow steps x).run c)
        ((Comparison.interface.follow steps x.comparison).run c) := by
  intro F G
  have hF := represents_form reader
  have hG := StoredEquality.represents_form reader
  refine ⟨hG.obtain o, ?_, ?_⟩
  · intro e he
    exact hF.inStep he steps c
  · intro x hx
    exact hG.inStep hx steps c

theorem runs_in_step_with_its_comparison_read :
    let o := Origin.read "[\"Equal\", [\"Variable\", \"?x\"], [\"Variable\", \"?y\"]]"
    let e : Equality := ⟨.var "?x", .var "?y"⟩
    let steps : List Transformation :=
      [.standardizeWith, .apply (OrderedMap.ofList [("?x_0", .const "a")]), .standardize,
        .standardizeWith]
    let F := form .scaling
    let G := StoredEquality.form .scaling
    let run := (F.follow steps e).run Context.new
    let widened := (Comparison.interface.follow steps e.toComparison).run Context.new
    F.obtain o = some e ∧ G.obtain o = some e.stored ∧ F.InStep run widened ∧
      G.InStep ((G.follow steps e.stored).run Context.new) widened ∧
      run.value.1 = ⟨.const "a", .var "?y_1_0_2"⟩ ∧
      run.events = [.renamed "?x" "?x_0", .renamed "?y" "?y_1", .renamed "?y_1" "?y_1_0",
        .renamed "?y_1_0" "?y_1_0_2"] := by
  intro o e steps F G run widened
  have he : F.obtain o = some e := by decide +kernel
  obtain ⟨hobtain, hequality, hstored⟩ := runs_in_step_with_its_comparison .scaling o steps Context.new
  rw [he] at hobtain
  refine ⟨he, hobtain, hequality e he, hstored e.stored hobtain, ?_, ?_⟩
  · decide +kernel
  · decide +kernel

end Equality

end PlanComparison
