import PlanComparison.Proofs.Expression

namespace PlanComparison

namespace Renaming

variable {α β : Type}

def result (x : Renaming α) (c : Context) : α := (x c).value.1

def final (x : Renaming α) (c : Context) : Context := (x c).value.2

@[simp] theorem result_pure (a : α) (c : Context) : result (pure a) c = a := rfl

@[simp] theorem final_pure (a : α) (c : Context) : final (pure a) c = c := rfl

@[simp] theorem result_bind (x : Renaming α) (f : α → Renaming β) (c : Context) :
    result (x >>= f) c = result (f (result x c)) (final x c) := rfl

@[simp] theorem final_bind (x : Renaming α) (f : α → Renaming β) (c : Context) :
    final (x >>= f) c = final (f (result x c)) (final x c) := rfl

theorem result_map (f : α → β) (x : Renaming α) (c : Context) :
    result (f <$> x) c = f (result x c) := by
  rw [map_eq_pure_bind]
  rfl

end Renaming

theorem imageOf_of_some {c : Context} {name image : String}
    (h : c.images.get? name = some image) : imageOf name c = ⟨(image, c), []⟩ := by
  simp only [imageOf, bind, StateT.bind, get, getThe, MonadStateOf.get, StateT.get, pure,
    Logged.bind, Logged.pure, h]
  rfl

theorem imageOf_of_none {c : Context} {name : String} (h : c.images.get? name = none) :
    imageOf name c = ⟨(c.fresh name, c.record name), [.renamed name (c.fresh name)]⟩ := by
  simp only [imageOf, bind, StateT.bind, get, getThe, MonadStateOf.get, StateT.get, pure,
    Logged.bind, Logged.pure, h]
  rfl

namespace Context

inductive Grows (c : Context) : Context → Prop
  | refl : Grows c c
  | record {d : Context} (name : String) (h : Grows c d) (hnew : d.images.get? name = none) :
      Grows c (d.record name)

theorem Grows.trans {b c d : Context} (hbc : b.Grows c) (hcd : c.Grows d) : b.Grows d := by
  induction hcd with
  | refl => exact hbc
  | record name _ hnew ih => exact .record name ih hnew

theorem entries_record {c : Context} {name : String} (h : c.images.get? name = none) :
    (c.record name).images.entries = c.images.entries ++ [(name, c.fresh name)] := by
  apply OrderedMap.put_of_notMem
  intro hmem
  have hcontains : c.images.contains name = true := List.contains_iff_mem.mpr hmem
  rw [OrderedMap.contains_eq_isSome, h] at hcontains
  cases hcontains

theorem mem_keys_iff (c : Context) (name : String) :
    name ∈ c.images.keys ↔ ∃ image, c.images.get? name = some image := by
  rw [← Option.isSome_iff_exists, ← OrderedMap.contains_eq_isSome, OrderedMap.contains,
    List.contains_iff_mem]

theorem Grows.scheme_eq {c d : Context} (h : c.Grows d) : d.scheme = c.scheme := by
  induction h with
  | refl => rfl
  | record name _ _ ih => exact ih

theorem Grows.entries_prefix {c d : Context} (h : c.Grows d) :
    c.images.entries <+: d.images.entries := by
  induction h with
  | refl => exact List.prefix_rfl
  | record name _ hnew ih =>
    rw [entries_record hnew]
    exact ih.trans (List.prefix_append _ _)

theorem Grows.getElem? {c d : Context} (h : c.Grows d) {k : Nat} {e : String × String}
    (hc : c.images.entries[k]? = some e) : d.images.entries[k]? = some e := by
  obtain ⟨hk, rfl⟩ := List.getElem?_eq_some_iff.mp hc
  exact List.prefix_iff_getElem?.mp h.entries_prefix k hk

theorem Grows.get? {c d : Context} (h : c.Grows d) {name image : String}
    (hc : c.images.get? name = some image) : d.images.get? name = some image :=
  h.entries_prefix.lookup_eq_some hc

end Context

open Renaming

theorem imageOf_grows (name : String) (c : Context) : c.Grows (final (imageOf name) c) := by
  cases h : c.images.get? name with
  | some image =>
    rw [final, imageOf_of_some h]
    exact .refl
  | none =>
    rw [final, imageOf_of_none h]
    exact .record name (.refl) h

theorem get?_final_imageOf (name : String) (c : Context) :
    (final (imageOf name) c).images.get? name = some (result (imageOf name) c) := by
  cases h : c.images.get? name with
  | some image =>
    rw [final, result, imageOf_of_some h]
    exact h
  | none =>
    rw [final, result, imageOf_of_none h]
    change (c.images.insert name _).get? name = _
    rw [OrderedMap.get?_insert, if_pos rfl]

theorem Term.standardize_grows (t : Term) (c : Context) : c.Grows (final t.standardize c) := by
  induction t generalizing c with
  | var name => exact imageOf_grows name c
  | const name => exact .refl
  | num x => exact .refl
  | minus a ih => exact ih c
  | binary op a b iha ihb => exact (iha c).trans (ihb _)

theorem Comparison.standardize_grows (x : Comparison) (c : Context) :
    c.Grows (final x.standardize c) :=
  (x.left.standardize_grows c).trans (x.right.standardize_grows _)

theorem Equality.standardize_grows (x : Equality) (c : Context) :
    c.Grows (final x.standardize c) :=
  x.toComparison.standardize_grows c

theorem Expression.standardize_grows (x : Expression) (c : Context) :
    c.Grows (final x.standardize c) := by
  cases x with
  | term t => exact t.standardize_grows c
  | comparison x => exact x.standardize_grows c
  | equality x => exact x.standardize_grows c

end PlanComparison
