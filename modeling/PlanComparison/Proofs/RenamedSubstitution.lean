import Mathlib.Data.List.Nodup
import PlanComparison.Proofs.Freshness
import PlanComparison.Proofs.RecordedRenaming
import PlanComparison.Proofs.SubstitutedVariables

/-!
Substitution commutes with standardization. Once every name has an image, a renaming leaves its
context alone, and since no two names share an image, a renamed binding catches the image of the
name that it was made for and of no other.
-/

namespace PlanComparison

def Substitution.standardize (s : Substitution) : Renaming Substitution := do
  let bindings ← s.entries.mapM fun e => do return (← imageOf e.1, ← e.2.standardize)
  return OrderedMap.ofList bindings

namespace Renaming

variable {α β : Type} {c : Context}

def Settles (x : Renaming α) (c : Context) (a : α) : Prop := x c = ⟨(a, c), []⟩

theorem Settles.pure (a : α) : Settles (pure a) c a := rfl

theorem Settles.bind {x : Renaming α} {f : α → Renaming β} {a : α} {b : β} (hx : Settles x c a)
    (hf : Settles (f a) c b) : Settles (x >>= f) c b := by
  change (x c >>= fun p => f p.1 p.2) = _
  rw [hx]
  change Logged.bind _ _ = _
  rw [Logged.bind, hf]
  rfl

theorem Settles.mapM {xs : List α} {f : α → Renaming β} {g : α → β}
    (h : ∀ a ∈ xs, Settles (f a) c (g a)) : Settles (xs.mapM f) c (xs.map g) := by
  induction xs with
  | nil => exact .pure _
  | cons a xs ih =>
    rw [List.mapM_cons]
    have htail := ih fun b hb => h b (List.mem_cons_of_mem a hb)
    exact (h a List.mem_cons_self).bind (htail.bind (.pure _))

end Renaming

namespace OrderedMap

variable {α β : Type}

theorem lookup_map_keys (f : String → String) (g : α → β) (es : List (String × α)) (x : String)
    (hinj : ∀ k ∈ es.map Prod.fst, f x = f k → x = k) :
    (es.map fun e => (f e.1, g e.2)).lookup (f x) = (es.lookup x).map g := by
  induction es with
  | nil => rfl
  | cons e es ih =>
    have htail := ih fun k hk => hinj k (List.mem_cons_of_mem _ hk)
    rw [List.map_cons, lookup_cons, lookup_cons, htail]
    by_cases hx : x = e.1
    · rw [if_pos hx, if_pos (congrArg f hx), Option.map_some]
    · have hfx : f x ≠ f e.1 := fun hf => hx (hinj e.1 List.mem_cons_self hf)
      rw [if_neg hx, if_neg hfx]

end OrderedMap

open Renaming

namespace Context

def image (c : Context) (name : String) : String := (c.images.get? name).getD name

theorem settles_imageOf {c : Context} {name : String} (h : name ∈ c.images.keys) :
    Settles (imageOf name) c (c.image name) := by
  obtain ⟨image, himage⟩ := (c.mem_keys_iff name).mp h
  rw [Context.image, himage]
  exact imageOf_of_some himage

theorem apply_renaming_var (c : Context) (name : String) :
    (Term.var name).apply c.renaming = .var (c.image name) := by
  change ((c.images.map Term.var).get? name).getD (.var name) = _
  rw [OrderedMap.get?_map, Context.image]
  cases c.images.get? name with
  | none => rfl
  | some image => rfl

theorem Numbered.image_injOn {c : Context} (h : c.Numbered) {a b : String}
    (ha : a ∈ c.images.keys) (hb : b ∈ c.images.keys) (heq : c.image a = c.image b) : a = b := by
  obtain ⟨i, hi⟩ := (c.mem_keys_iff a).mp ha
  obtain ⟨j, hj⟩ := (c.mem_keys_iff b).mp hb
  rw [Context.image, Context.image, hi, hj] at heq
  cases heq
  exact h.image_inj hi hj

end Context

theorem Term.settles_standardize {c : Context} {t : Term} (h : t.occurrences ⊆ c.images.keys) :
    Settles t.standardize c (t.apply c.renaming) := by
  induction t with
  | var name =>
    have himage := Context.settles_imageOf (h List.mem_cons_self)
    rw [Context.apply_renaming_var]
    exact himage.bind (.pure _)
  | const name => exact .pure _
  | num x => exact .pure _
  | minus a ih => exact (ih h).bind (.pure _)
  | binary op a b iha ihb =>
    have hab := List.append_subset.mp h
    exact (iha hab.1).bind ((ihb hab.2).bind (.pure _))

theorem Comparison.settles_standardize {c : Context} {x : Comparison}
    (h : x.vars ⊆ c.images.keys) : Settles x.standardize c (x.apply c.renaming) := by
  have hab := Comparison.vars_subset_iff.mp h
  have hleft := Term.settles_standardize hab.1
  exact hleft.bind ((Term.settles_standardize hab.2).bind (.pure _))

theorem Equality.settles_standardize {c : Context} {x : Equality}
    (h : x.vars ⊆ c.images.keys) : Settles x.standardize c (x.apply c.renaming) := by
  have hab := Comparison.vars_subset_iff (c := x.toComparison).mp h
  have hleft := Term.settles_standardize hab.1
  exact hleft.bind ((Term.settles_standardize hab.2).bind (.pure _))

theorem Expression.settles_standardize {c : Context} {x : Expression}
    (h : x.vars ⊆ c.images.keys) : Settles x.standardize c (x.apply c.renaming) := by
  cases x with
  | term t => exact (Term.settles_standardize (Term.vars_subset_iff.mp h)).bind (.pure _)
  | comparison x => exact (Comparison.settles_standardize h).bind (.pure _)
  | equality x => exact (Equality.settles_standardize h).bind (.pure _)

namespace Substitution

def renamed (s : Substitution) (c : Context) : Substitution :=
  OrderedMap.ofList (s.entries.map fun e => (c.image e.1, e.2.apply c.renaming))

structure Recorded (s : Substitution) (c : Context) : Prop where
  names : s.keys ⊆ c.images.keys
  terms : ∀ e ∈ s.entries, e.2.vars ⊆ c.images.keys

theorem Recorded.settles_standardize {s : Substitution} {c : Context} (h : s.Recorded c) :
    Settles s.standardize c (s.renamed c) := by
  have hstep : ∀ e ∈ s.entries, Settles (do return (← imageOf e.1, ← e.2.standardize)) c
      (c.image e.1, e.2.apply c.renaming) := by
    intro e he
    have himage := Context.settles_imageOf (h.names (List.mem_map_of_mem he))
    have hterm := Term.settles_standardize (Term.vars_subset_iff.mp (h.terms e he))
    exact himage.bind (hterm.bind (.pure _))
  exact (Settles.mapM hstep).bind (.pure _)

theorem Recorded.get?_renamed {s : Substitution} {c : Context} (h : s.Recorded c)
    (hc : c.Numbered) {name : String} (hname : name ∈ c.images.keys) :
    (s.renamed c).get? (c.image name) = (s.get? name).map (Term.apply c.renaming) := by
  have hnodup : ((s.entries.map fun e => (c.image e.1, e.2.apply c.renaming)).map
      Prod.fst).Nodup := by
    have hkeys : (s.keys.map c.image).Nodup :=
      s.nodup.map_on fun a ha b hb => hc.image_injOn (h.names ha) (h.names hb)
    rw [OrderedMap.keys, List.map_map] at hkeys
    rw [List.map_map]
    exact hkeys
  rw [renamed, OrderedMap.get?, OrderedMap.entries_ofList _ hnodup]
  exact OrderedMap.lookup_map_keys c.image _ s.entries name fun k hk =>
    hc.image_injOn hname (h.names hk)

end Substitution

theorem Term.apply_renaming_renamed {c : Context} (hc : c.Numbered) {s : Substitution}
    (hs : s.Recorded c) {t : Term} (h : t.occurrences ⊆ c.images.keys) :
    (t.apply c.renaming).apply (s.renamed c) = (t.apply s).apply c.renaming := by
  induction t with
  | var name =>
    have hget := hs.get?_renamed hc (h List.mem_cons_self)
    rw [Context.apply_renaming_var, apply_var, hget, apply_var]
    cases s.get? name with
    | none => exact (c.apply_renaming_var name).symm
    | some u => rfl
  | const name => rfl
  | num x => rfl
  | minus a ih => exact congrArg Term.minus (ih h)
  | binary op a b iha ihb =>
    have hab := List.append_subset.mp h
    exact congrArg₂ (Term.binary op) (iha hab.1) (ihb hab.2)

theorem Comparison.apply_renaming_renamed {c : Context} (hc : c.Numbered) {s : Substitution}
    (hs : s.Recorded c) {x : Comparison} (h : x.vars ⊆ c.images.keys) :
    (x.apply c.renaming).apply (s.renamed c) = (x.apply s).apply c.renaming := by
  have hab := Comparison.vars_subset_iff.mp h
  have hleft := Term.apply_renaming_renamed hc hs hab.1
  exact congrArg₂ (Comparison.mk x.op) hleft (Term.apply_renaming_renamed hc hs hab.2)

namespace Expression

theorem apply_renaming_renamed {c : Context} (hc : c.Numbered) {s : Substitution}
    (hs : s.Recorded c) {x : Expression} (h : x.vars ⊆ c.images.keys) :
    (x.apply c.renaming).apply (s.renamed c) = (x.apply s).apply c.renaming := by
  cases x with
  | term t => exact congrArg term (Term.apply_renaming_renamed hc hs (Term.vars_subset_iff.mp h))
  | comparison x => exact congrArg comparison (Comparison.apply_renaming_renamed hc hs h)
  | equality x =>
    have hsides := Comparison.apply_renaming_renamed hc hs (x := x.toComparison) h
    exact congrArg equality (Equality.toComparison_inj hsides)

theorem vars_apply_subset {c : Context} {s : Substitution} (hs : s.Recorded c) {x : Expression}
    (h : x.vars ⊆ c.images.keys) : (x.apply s).vars ⊆ c.images.keys := by
  intro name hname
  rcases (x.mem_vars_apply_iff s name).mp hname with ⟨hx, -⟩ | ⟨v, -, t, ht, hoccurs⟩
  · exact h hx
  · rw [Term.contains_var_iff] at hoccurs
    have hterm := hs.terms (v, t) ((s.get?_eq_some_iff v t).mp ht)
    exact Term.vars_subset_iff.mp hterm hoccurs

theorem apply_commutes_with_standardize {start : Context} (hstart : start.Initial)
    (requests : List Request) (s : Substitution) (x : Expression)
    (hx : x.vars ⊆ (start.serve requests).images.keys)
    (hnames : s.keys ⊆ (start.serve requests).images.keys)
    (hterms : ∀ e ∈ s.entries, e.2.vars ⊆ (start.serve requests).images.keys) :
    let c := start.serve requests
    let x' := result x.standardize c
    let s' := result s.standardize c
    x.standardize c = ⟨(x', c), []⟩ ∧ s.standardize c = ⟨(s', c), []⟩ ∧
      (x.apply s).standardize c = ⟨(x'.apply s', c), []⟩ := by
  intro c x' s'
  have hc : c.Numbered := (start.serve_grows requests).numbered hstart.numbered
  have hs : s.Recorded c := ⟨hnames, hterms⟩
  have hx' : Settles x.standardize c (x.apply c.renaming) := settles_standardize hx
  have hs' : Settles s.standardize c (s.renamed c) := hs.settles_standardize
  have happlied : Settles (x.apply s).standardize c ((x.apply s).apply c.renaming) :=
    settles_standardize (vars_apply_subset hs hx)
  have hresult : x' = x.apply c.renaming := congrArg (·.value.1) hx'
  have hbindings : s' = s.renamed c := congrArg (·.value.1) hs'
  rw [← apply_renaming_renamed hc hs hx] at happlied
  rw [hresult, hbindings]
  exact ⟨hx', hs', happlied⟩

/-- The names of the substitution are also images of each other. -/
theorem apply_commutes_with_standardize_overlap :
    let requests : List Request := [.image "?x", .image "?x_0", .image "?y"]
    let c := Context.new.serve requests
    let s : Substitution := .ofList [("?x", .var "?x_0"), ("?x_0", .minus (.var "?y"))]
    let x : Expression := .comparison ⟨.less, .var "?x", .binary .add (.var "?x_0") (.var "?y")⟩
    Context.Initial .new ∧ x.vars ⊆ c.images.keys ∧ s.keys ⊆ c.images.keys ∧
      (∀ e ∈ s.entries, e.2.vars ⊆ c.images.keys) ∧
      (result s.standardize c).entries =
        [("?x_0", .var "?x_0_1"), ("?x_0_1", .minus (.var "?y_2"))] ∧
      (x.apply s).standardize c =
        ⟨(.comparison ⟨.less, .var "?x_0_1", .binary .add (.minus (.var "?y_2")) (.var "?y_2")⟩,
          c), []⟩ := by
  intro requests c s x
  have hx : x.vars ⊆ c.images.keys := by decide +kernel
  have hnames : s.keys ⊆ c.images.keys := by decide +kernel
  have hterms : ∀ e ∈ s.entries, e.2.vars ⊆ c.images.keys := by decide +kernel
  have hbindings : (result s.standardize c).entries =
      [("?x_0", .var "?x_0_1"), ("?x_0_1", .minus (.var "?y_2"))] := by decide +kernel
  have hresult : (result x.standardize c).apply (result s.standardize c) =
      .comparison ⟨.less, .var "?x_0_1", .binary .add (.minus (.var "?y_2")) (.var "?y_2")⟩ := by
    decide +kernel
  obtain ⟨-, -, happlied⟩ := apply_commutes_with_standardize .new requests s x hx hnames hterms
  rw [hresult] at happlied
  exact ⟨.new, hx, hnames, hterms, hbindings, happlied⟩

end Expression

end PlanComparison
