import PlanComparison.Proofs.Freshness
import PlanComparison.Proofs.Variables

namespace PlanComparison

open Renaming

def unknown (known names : List String) : List String := (distinct names).filter (· ∉ known)

theorem unknown_cons_of_mem {known : List String} {x : String} (h : x ∈ known)
    (xs : List String) : unknown known (x :: xs) = unknown known xs := by
  rw [unknown, distinct, List.filter_cons_of_neg (by simpa using h), List.filter_filter, unknown]
  apply List.filter_congr
  intro y _
  by_cases hy : y = x
  · simp [hy, h]
  · simp [hy]

theorem unknown_cons_of_notMem {known : List String} {x : String} (h : x ∉ known)
    (xs : List String) : unknown known (x :: xs) = x :: unknown (known ++ [x]) xs := by
  rw [unknown, distinct, List.filter_cons_of_pos (by simpa using h), List.filter_filter, unknown]
  congr 1
  apply List.filter_congr
  intro y _
  simp

namespace Context

def visit (c : Context) (names : List String) : Context :=
  names.foldl (fun c name => final (imageOf name) c) c

theorem visit_append (c : Context) (xs ys : List String) :
    c.visit (xs ++ ys) = (c.visit xs).visit ys :=
  List.foldl_append

theorem keys_record {c : Context} {name : String} (h : c.images.get? name = none) :
    (c.record name).images.keys = c.images.keys ++ [name] := by
  rw [OrderedMap.keys, entries_record h, List.map_append]
  rfl

theorem keys_visit (c : Context) (names : List String) :
    (c.visit names).images.keys = c.images.keys ++ unknown c.images.keys names := by
  induction names generalizing c with
  | nil => exact (List.append_nil _).symm
  | cons x xs ih =>
    have hvisit : c.visit (x :: xs) = (final (imageOf x) c).visit xs := rfl
    rw [hvisit, ih]
    cases hget : c.images.get? x with
    | some image =>
      have hx : x ∈ c.images.keys := (c.mem_keys_iff x).mpr ⟨image, hget⟩
      have hfinal : final (imageOf x) c = c := by rw [final, imageOf_of_some hget]
      rw [hfinal, unknown_cons_of_mem hx]
    | none =>
      have hx : x ∉ c.images.keys := by
        intro hmem
        obtain ⟨image, himage⟩ := (c.mem_keys_iff x).mp hmem
        cases hget.symm.trans himage
      have hfinal : final (imageOf x) c = c.record x := by rw [final, imageOf_of_none hget]
      rw [hfinal, keys_record hget, unknown_cons_of_notMem hx, List.append_assoc,
        List.singleton_append]

end Context

theorem Term.final_standardize (t : Term) (c : Context) :
    final t.standardize c = c.visit t.occurrences := by
  induction t generalizing c with
  | var name => rfl
  | const name => rfl
  | num x => rfl
  | minus a ih => exact ih c
  | binary op a b iha ihb =>
    rw [occurrences, Context.visit_append, ← iha, ← ihb]
    rfl

namespace Expression

theorem final_standardize (x : Expression) (c : Context) :
    final x.standardize c = c.visit x.occurrences := by
  cases x with
  | term t => exact t.final_standardize c
  | comparison x =>
    rw [occurrences, Context.visit_append, ← Term.final_standardize, ← Term.final_standardize]
    rfl
  | equality x =>
    rw [occurrences, Context.visit_append, ← Term.final_standardize, ← Term.final_standardize]
    rfl

theorem keys_final_standardize (x : Expression) (c : Context) :
    (final x.standardize c).images.keys =
      c.images.keys ++ x.vars.filter (· ∉ c.images.keys) := by
  rw [final_standardize, Context.keys_visit, vars_eq_distinct, unknown]

end Expression

end PlanComparison
