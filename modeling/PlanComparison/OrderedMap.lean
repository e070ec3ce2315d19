/-!
Maps from names to values that remember the order in which the names were first bound.
Binding a name again replaces its value and keeps its place.
-/

namespace PlanComparison

@[ext]
structure OrderedMap (α : Type) where
  entries : List (String × α)
  nodup : (entries.map Prod.fst).Nodup
  deriving DecidableEq

namespace OrderedMap

variable {α β : Type}

def empty : OrderedMap α := ⟨[], by simp⟩

def keys (m : OrderedMap α) : List String := m.entries.map Prod.fst

def size (m : OrderedMap α) : Nat := m.entries.length

def isEmpty (m : OrderedMap α) : Bool := m.entries.isEmpty

def get? (m : OrderedMap α) (k : String) : Option α := m.entries.lookup k

def contains (m : OrderedMap α) (k : String) : Bool := m.keys.contains k

def put (k : String) (v : α) : List (String × α) → List (String × α)
  | [] => [(k, v)]
  | e :: es => if e.1 = k then (k, v) :: es else e :: put k v es

theorem keys_put (k : String) (v : α) (es : List (String × α)) :
    (put k v es).map Prod.fst =
      if k ∈ es.map Prod.fst then es.map Prod.fst else es.map Prod.fst ++ [k] := by
  induction es with
  | nil => rfl
  | cons e es ih =>
    by_cases he : e.1 = k
    · simp [put, he]
    · simp only [put, he, if_false, List.map_cons, ih, List.mem_cons, Ne.symm he, false_or]
      split <;> rfl

theorem nodup_put (k : String) (v : α) (es : List (String × α))
    (h : (es.map Prod.fst).Nodup) : ((put k v es).map Prod.fst).Nodup := by
  rw [keys_put]
  split
  · exact h
  · rename_i hk
    rw [List.nodup_append]
    refine ⟨h, by simp, ?_⟩
    intro x hx y hy hxy
    rw [hxy, List.mem_singleton.mp hy] at hx
    exact hk hx

def insert (m : OrderedMap α) (k : String) (v : α) : OrderedMap α :=
  ⟨put k v m.entries, nodup_put k v m.entries m.nodup⟩

def insertAll (m : OrderedMap α) (es : List (String × α)) : OrderedMap α :=
  es.foldl (fun m e => m.insert e.1 e.2) m

def ofList (es : List (String × α)) : OrderedMap α := empty.insertAll es

def map (f : α → β) (m : OrderedMap α) : OrderedMap β :=
  ofList (m.entries.map fun e => (e.1, f e.2))

def union (m n : OrderedMap α) : OrderedMap α :=
  m.insertAll (n.entries.filter fun e => !m.contains e.1)

theorem put_of_notMem (k : String) (v : α) (es : List (String × α))
    (h : k ∉ es.map Prod.fst) : put k v es = es ++ [(k, v)] := by
  induction es with
  | nil => rfl
  | cons e es ih =>
    simp only [List.map_cons, List.mem_cons, not_or] at h
    rw [put, if_neg (Ne.symm h.1), ih h.2, List.cons_append]

theorem entries_insertAll (m : OrderedMap α) (es : List (String × α))
    (h : ((m.entries ++ es).map Prod.fst).Nodup) : (m.insertAll es).entries = m.entries ++ es := by
  induction es generalizing m with
  | nil => exact (List.append_nil _).symm
  | cons e es ih =>
    have hsplit : m.entries ++ e :: es = (m.entries ++ [e]) ++ es := by simp
    have hnew : e.1 ∉ m.entries.map Prod.fst := by
      rw [List.map_append, List.map_cons, List.nodup_append] at h
      exact fun hm => h.2.2 e.1 hm e.1 List.mem_cons_self rfl
    have hput : (m.insert e.1 e.2).entries = m.entries ++ [e] := put_of_notMem e.1 e.2 _ hnew
    have hnext := ih (m.insert e.1 e.2) (by rw [hput, ← hsplit]; exact h)
    rw [hput, ← hsplit] at hnext
    exact hnext

theorem entries_ofList (es : List (String × α)) (h : (es.map Prod.fst).Nodup) :
    (ofList es).entries = es :=
  entries_insertAll empty es h

@[simp] theorem entries_map (f : α → β) (m : OrderedMap α) :
    (m.map f).entries = m.entries.map fun e => (e.1, f e.2) := by
  apply entries_ofList
  simpa only [List.map_map, Function.comp_def] using m.nodup

@[simp] theorem entries_union (m n : OrderedMap α) :
    (m.union n).entries = m.entries ++ n.entries.filter fun e => !m.contains e.1 := by
  apply entries_insertAll
  rw [List.map_append, List.nodup_append]
  refine ⟨m.nodup, n.nodup.sublist (List.Sublist.map _ List.filter_sublist), ?_⟩
  intro a ha b hb hab
  obtain ⟨e, he, rfl⟩ := List.mem_map.mp hb
  have hm : m.contains e.1 = false := by simpa using (List.mem_filter.mp he).2
  rw [contains, List.contains_eq_mem, decide_eq_false_iff_not] at hm
  exact hm (hab ▸ ha)

theorem mem_put {k : String} {v : α} {es : List (String × α)} {e : String × α}
    (h : e ∈ put k v es) : e = (k, v) ∨ e ∈ es := by
  induction es with
  | nil => exact .inl (List.mem_singleton.mp h)
  | cons f es ih =>
    by_cases hf : f.1 = k
    · rw [put, if_pos hf] at h
      exact (List.mem_cons.mp h).imp_right (List.mem_cons_of_mem f)
    · rw [put, if_neg hf] at h
      rcases List.mem_cons.mp h with rfl | h
      · exact .inr List.mem_cons_self
      · exact (ih h).imp_right (List.mem_cons_of_mem f)

theorem mem_of_mem_insertAll {m : OrderedMap α} {es : List (String × α)} {e : String × α}
    (h : e ∈ (m.insertAll es).entries) : e ∈ m.entries ∨ e ∈ es := by
  induction es generalizing m with
  | nil => exact .inl h
  | cons f es ih =>
    rcases ih h with h | h
    · rcases mem_put h with rfl | h
      · exact .inr List.mem_cons_self
      · exact .inl h
    · exact .inr (List.mem_cons_of_mem f h)

theorem mem_of_mem_ofList {es : List (String × α)} {e : String × α}
    (h : e ∈ (ofList es).entries) : e ∈ es :=
  (mem_of_mem_insertAll h).resolve_left List.not_mem_nil

theorem lookup_cons (e : String × α) (es : List (String × α)) (x : String) :
    (e :: es).lookup x = if x = e.1 then some e.2 else es.lookup x := by
  obtain ⟨k, v⟩ := e
  rw [List.lookup_cons]
  by_cases h : x = k
  · simp [h]
  · simp [h, beq_false_of_ne h]

theorem lookup_put (k : String) (v : α) (es : List (String × α)) (x : String) :
    (put k v es).lookup x = if x = k then some v else es.lookup x := by
  induction es with
  | nil => exact lookup_cons (k, v) [] x
  | cons e es ih =>
    by_cases he : e.1 = k
    · rw [put, if_pos he, lookup_cons, lookup_cons, he]
      by_cases hx : x = k <;> simp [hx]
    · rw [put, if_neg he, lookup_cons, lookup_cons, ih]
      by_cases hx : x = e.1
      · simp [hx, he]
      · simp [hx]

theorem lookup_map (f : α → β) (es : List (String × α)) (x : String) :
    (es.map fun e => (e.1, f e.2)).lookup x = (es.lookup x).map f := by
  induction es with
  | nil => rfl
  | cons e es ih =>
    rw [List.map_cons, lookup_cons, lookup_cons, ih]
    by_cases hx : x = e.1 <;> simp [hx]

theorem lookup_filter (p : String → Bool) (es : List (String × α)) (x : String) :
    (es.filter fun e => p e.1).lookup x = if p x then es.lookup x else none := by
  induction es with
  | nil => simp
  | cons e es ih =>
    cases hp : p e.1 with
    | false =>
      rw [List.filter_cons, if_neg (by simp [hp]), ih, lookup_cons]
      by_cases hx : x = e.1
      · simp [hx, hp]
      · simp [hx]
    | true =>
      rw [List.filter_cons, if_pos hp, lookup_cons, lookup_cons, ih]
      by_cases hx : x = e.1
      · simp [hx, hp]
      · simp [hx]

theorem lookup_isSome (es : List (String × α)) (x : String) :
    (es.lookup x).isSome = (es.map Prod.fst).contains x := by
  induction es with
  | nil => rfl
  | cons e es ih =>
    rw [lookup_cons, List.map_cons, List.contains_cons, ← ih]
    by_cases hx : x = e.1 <;> simp [hx]

theorem lookup_eq_some_iff {es : List (String × α)} (h : (es.map Prod.fst).Nodup) (x : String)
    (v : α) : es.lookup x = some v ↔ (x, v) ∈ es := by
  induction es with
  | nil => simp
  | cons e es ih =>
    obtain ⟨k, w⟩ := e
    rw [List.map_cons, List.nodup_cons] at h
    rw [List.mem_cons, Prod.mk.injEq, ← ih h.2, lookup_cons]
    by_cases hx : x = k
    · subst hx
      have hrest : es.lookup x ≠ some v := by
        rw [Ne, ih h.2]
        exact fun hm => h.1 (List.mem_map.mpr ⟨_, hm, rfl⟩)
      simp [hrest, eq_comm]
    · simp [hx]

theorem get?_eq_some_iff (m : OrderedMap α) (x : String) (v : α) :
    m.get? x = some v ↔ (x, v) ∈ m.entries :=
  lookup_eq_some_iff m.nodup x v

@[simp] theorem get?_empty (x : String) : (empty : OrderedMap α).get? x = none := rfl

@[simp] theorem get?_insert (m : OrderedMap α) (k : String) (v : α) (x : String) :
    (m.insert k v).get? x = if x = k then some v else m.get? x :=
  lookup_put k v m.entries x

@[simp] theorem get?_map (f : α → β) (m : OrderedMap α) (x : String) :
    (m.map f).get? x = (m.get? x).map f := by
  rw [get?, entries_map, lookup_map, ← get?]

theorem contains_eq_isSome (m : OrderedMap α) (x : String) : m.contains x = (m.get? x).isSome :=
  (lookup_isSome m.entries x).symm

@[simp] theorem get?_union (m n : OrderedMap α) (x : String) :
    (m.union n).get? x = (m.get? x).or (n.get? x) := by
  rw [get?, entries_union, List.lookup_append, lookup_filter (fun k => !m.contains k),
    contains_eq_isSome]
  change (m.get? x).or _ = (m.get? x).or (n.entries.lookup x)
  cases m.get? x <;> simp

@[simp] theorem keys_map (f : α → β) (m : OrderedMap α) : (m.map f).keys = m.keys := by
  simp [keys, List.map_map, Function.comp_def]

theorem put_map (f : α → β) (k : String) (v : α) (es : List (String × α)) :
    put k (f v) (es.map fun e => (e.1, f e.2)) = (put k v es).map fun e => (e.1, f e.2) := by
  induction es with
  | nil => rfl
  | cons e es ih =>
    rw [List.map_cons, put, put, ih]
    split <;> rfl

theorem map_insert (f : α → β) (m : OrderedMap α) (k : String) (v : α) :
    (m.insert k v).map f = (m.map f).insert k (f v) := by
  have hentries (n : OrderedMap β) : (n.insert k (f v)).entries = put k (f v) n.entries := rfl
  apply OrderedMap.ext
  rw [entries_map, hentries, entries_map, put_map]
  rfl

theorem map_insertAll (f : α → β) (m : OrderedMap α) (es : List (String × α)) :
    (m.insertAll es).map f = (m.map f).insertAll (es.map fun e => (e.1, f e.2)) := by
  induction es generalizing m with
  | nil => rfl
  | cons e es ih =>
    have hinsert := ih (m.insert e.1 e.2)
    rw [map_insert] at hinsert
    exact hinsert

theorem map_ofList (f : α → β) (es : List (String × α)) :
    (ofList es).map f = ofList (es.map fun e => (e.1, f e.2)) :=
  map_insertAll f empty es

theorem map_map {γ : Type} (f : α → β) (g : β → γ) (m : OrderedMap α) :
    (m.map f).map g = m.map (g ∘ f) := by
  apply OrderedMap.ext
  rw [entries_map, entries_map, entries_map, List.map_map]
  rfl

theorem map_union (f : α → β) (m n : OrderedMap α) :
    (m.union n).map f = (m.map f).union (n.map f) := by
  have hcontains (k : String) : (m.map f).contains k = m.contains k := by
    rw [contains, keys_map, contains]
  rw [union, map_insertAll, union, entries_map, List.filter_map]
  simp only [Function.comp_def, hcontains]

@[simp] theorem map_id (m : OrderedMap α) : m.map id = m := by
  apply OrderedMap.ext
  rw [entries_map]
  exact List.map_id m.entries

@[simp] theorem union_empty (m : OrderedMap α) : m.union empty = m := rfl

@[simp] theorem empty_union (m : OrderedMap α) : empty.union m = m := by
  apply OrderedMap.ext
  rw [entries_union]
  exact List.filter_eq_self.mpr fun _ _ => rfl

theorem contains_union (m n : OrderedMap α) (x : String) :
    (m.union n).contains x = (m.contains x || n.contains x) := by
  simp only [contains_eq_isSome, get?_union, Option.isSome_or]

theorem keys_union (m n : OrderedMap α) :
    (m.union n).keys = m.keys ++ n.keys.filter fun x => !m.contains x := by
  rw [keys, entries_union, List.map_append, keys, keys, List.filter_map]
  rfl

theorem union_assoc (l m n : OrderedMap α) : (l.union m).union n = l.union (m.union n) := by
  have hnew : (fun e : String × α => !(l.union m).contains e.1) =
      fun e => !l.contains e.1 && !m.contains e.1 := by
    funext e
    rw [contains_union, Bool.not_or]
  apply OrderedMap.ext
  rw [entries_union, entries_union, entries_union, entries_union, List.filter_append,
    List.filter_filter, hnew, List.append_assoc]

def same (r : α → α → Bool) (m n : OrderedMap α) : Bool :=
  m.size == n.size && m.entries.all fun e => (n.get? e.1).any (r e.2)

end OrderedMap

end PlanComparison
