import Mathlib.Data.List.Basic
import PlanComparison.Term.Variables

namespace PlanComparison

theorem mem_distinct (x : String) (xs : List String) : x ∈ distinct xs ↔ x ∈ xs := by
  induction xs with
  | nil => rfl
  | cons y ys ih =>
    rw [distinct, List.mem_cons, List.mem_cons, List.mem_filter, ih]
    by_cases hxy : x = y
    · simp only [hxy, true_or]
    · simp [hxy]

theorem distinct_subset_iff (xs ys : List String) : distinct xs ⊆ ys ↔ xs ⊆ ys :=
  forall_congr' fun x => imp_congr_left (mem_distinct x xs)

theorem distinct_eq_nil_iff (xs : List String) : distinct xs = [] ↔ xs = [] := by
  cases xs with
  | nil => exact iff_of_true rfl rfl
  | cons x xs => exact iff_of_false (List.cons_ne_nil _ _) (List.cons_ne_nil _ _)

theorem nodup_distinct (xs : List String) : (distinct xs).Nodup := by
  induction xs with
  | nil => exact List.nodup_nil
  | cons x xs ih =>
    rw [distinct, List.nodup_cons]
    exact ⟨by simp, ih.filter _⟩

theorem distinct_filter (p : String → Bool) (xs : List String) :
    distinct (xs.filter p) = (distinct xs).filter p := by
  induction xs with
  | nil => rfl
  | cons x xs ih =>
    by_cases hx : p x = true
    · rw [List.filter_cons_of_pos hx, distinct, ih, distinct, List.filter_cons_of_pos hx,
        List.filter_filter, List.filter_filter]
      simp only [Bool.and_comm]
    · rw [List.filter_cons_of_neg hx, ih, distinct, List.filter_cons_of_neg hx, List.filter_filter]
      apply List.filter_congr
      intro y _
      by_cases hy : y = x
      · simp [hy, hx]
      · simp [hy]

theorem distinct_append (xs ys : List String) :
    distinct (xs ++ ys) = distinct xs ++ (distinct ys).filter (· ∉ xs) := by
  induction xs with
  | nil => simp [distinct]
  | cons x xs ih =>
    rw [List.cons_append, distinct, ih, distinct, List.cons_append, List.filter_append,
      List.filter_filter]
    simp only [List.mem_cons, not_or, Bool.decide_and]

theorem distinct_map_of_injOn {f : String → String} {xs : List String}
    (h : ∀ a ∈ xs, ∀ b ∈ xs, f a = f b → a = b) : distinct (xs.map f) = (distinct xs).map f := by
  induction xs with
  | nil => rfl
  | cons x xs ih =>
    have htail := ih fun a ha b hb => h a (List.mem_cons_of_mem x ha) b (List.mem_cons_of_mem x hb)
    rw [List.map_cons, distinct, htail, distinct, List.map_cons, List.filter_map]
    congr 2
    apply List.filter_congr
    intro y hy
    have hinj := h y (List.mem_cons_of_mem x ((mem_distinct y xs).mp hy)) x List.mem_cons_self
    by_cases hyx : y = x
    · simp [hyx]
    · have hne : f y ≠ f x := fun heq => hyx (hinj heq)
      simp [hyx, hne]

section Blocks

variable (f g : String → List String)

theorem filter_flatMap_ne (x : String) (ys : List String) :
    ((ys.filter (· ≠ x)).flatMap f).filter (· ∉ f x) = (ys.flatMap f).filter (· ∉ f x) := by
  induction ys with
  | nil => rfl
  | cons y ys ih =>
    by_cases hyx : y = x
    · subst hyx
      have hblock : (f y).filter (· ∉ f y) = [] := by simp
      rw [List.filter_cons_of_neg (by simp), ih, List.flatMap_cons, List.filter_append, hblock,
        List.nil_append]
    · rw [List.filter_cons_of_pos (by simpa using hyx), List.flatMap_cons, List.filter_append, ih,
        List.flatMap_cons, List.filter_append]

theorem distinct_flatMap_distinct (xs : List String) :
    distinct ((distinct xs).flatMap f) = distinct (xs.flatMap f) := by
  induction xs with
  | nil => rfl
  | cons x xs ih =>
    -- After the block of `x`, whatever further blocks of `x` would add is dropped.
    rw [distinct, List.flatMap_cons, distinct_append, List.flatMap_cons, distinct_append,
      ← distinct_filter, filter_flatMap_ne, distinct_filter, ih]

theorem distinct_flatMap_congr (h : ∀ x, distinct (f x) = distinct (g x)) (xs : List String) :
    distinct (xs.flatMap f) = distinct (xs.flatMap g) := by
  have hmem (x y : String) : y ∈ f x ↔ y ∈ g x := by
    rw [← mem_distinct y (f x), h, mem_distinct]
  induction xs with
  | nil => rfl
  | cons x xs ih =>
    rw [List.flatMap_cons, distinct_append, h, ih, List.flatMap_cons, distinct_append]
    simp only [hmem]

end Blocks

theorem distinct_distinct (xs : List String) : distinct (distinct xs) = distinct xs := by
  have hsingletons := distinct_flatMap_distinct (fun x => [x]) xs
  rwa [List.flatMap_singleton', List.flatMap_singleton'] at hsingletons

end PlanComparison
