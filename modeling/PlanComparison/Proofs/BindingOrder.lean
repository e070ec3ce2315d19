import Mathlib.Logic.Function.Iterate
import PlanComparison.Proofs.Distinct
import PlanComparison.Proofs.JsonRoundTrip
import PlanComparison.Proofs.ReadNesting
import PlanComparison.Proofs.TreeReading

/-!
A substitution put together from pairs of a name and a term, in which names may come again. Each
name stands where it came first, with the term that came last, whether the pairs are bound one
after another, collected, or read from a text that lists them. A text with too many brackets open
at once is refused, whatever it lists. A text written for the pairs lists just these where the
package that reads numbers restores those of the pairs.
-/

namespace PlanComparison

namespace OrderedMap

variable {α : Type}

theorem getElem?_put_of_ne {k : String} {e : String × α} (h : e.1 ≠ k) (v : α)
    (es : List (String × α)) (i : Nat) : (put k v es)[i]? = some e ↔ es[i]? = some e := by
  induction es generalizing i with
  | nil =>
    cases i with
    | zero =>
      refine iff_of_false ?_ (by simp)
      rintro ⟨⟩
      exact h rfl
    | succ i => rfl
  | cons f es ih =>
    by_cases hf : f.1 = k
    · rw [put, if_pos hf]
      cases i with
      | zero =>
        apply iff_of_false
        · rintro ⟨⟩
          exact h rfl
        · rintro ⟨⟩
          exact h hf
      | succ i => rfl
    · rw [put, if_neg hf]
      cases i with
      | zero => rfl
      | succ i => exact ih i

theorem entries_eq_filterMap_keys (m : OrderedMap α) :
    m.entries = m.keys.filterMap fun k => (m.get? k).map (k, ·) := by
  have hentry : ∀ e ∈ m.entries, some e = (m.get? e.1).map (e.1, ·) := by
    intro e he
    rw [(m.get?_eq_some_iff e.1 e.2).mpr he]
    rfl
  rw [keys, List.filterMap_map]
  exact List.filterMap_some.symm.trans (List.filterMap_congr hentry)

def gathered (ps : List (String × α)) : List (String × α) :=
  (distinct (ps.map Prod.fst)).filterMap fun k => (ps.reverse.lookup k).map (k, ·)

example : gathered [("?x", 1), ("?y", 2), ("?x", 3)] = [("?x", 3), ("?y", 2)] := by decide

structure Gathers (m : OrderedMap α) (ps : List (String × α)) : Prop where
  keys_eq : m.keys = distinct (ps.map Prod.fst)
  get?_eq : ∀ x, m.get? x = ps.reverse.lookup x

theorem gathers_empty : (empty : OrderedMap α).Gathers [] := ⟨rfl, fun _ => rfl⟩

namespace Gathers

variable {m : OrderedMap α} {ps : List (String × α)} (h : m.Gathers ps)

include h

theorem insert (k : String) (v : α) : (m.insert k v).Gathers (ps ++ [(k, v)]) where
  keys_eq := by
    have hkeys : (m.insert k v).keys = if k ∈ m.keys then m.keys else m.keys ++ [k] :=
      keys_put k v m.entries
    have hmem : k ∈ m.keys ↔ k ∈ ps.map Prod.fst := by rw [h.keys_eq, mem_distinct]
    rw [hkeys, List.map_append, distinct_append, ← h.keys_eq]
    by_cases hk : k ∈ ps.map Prod.fst
    · simp [distinct, hk, hmem]
    · simp [distinct, hk, hmem]
  get?_eq x := by
    rw [get?_insert, h.get?_eq, List.reverse_append]
    exact (lookup_cons (k, v) ps.reverse x).symm

theorem insertAll (qs : List (String × α)) : (m.insertAll qs).Gathers (ps ++ qs) := by
  -- What is taken in grows with the map, so both change along the way.
  induction qs generalizing m ps with
  | nil =>
    rw [List.append_nil]
    exact h
  | cons q qs ih =>
    have hnext := ih (h.insert q.1 q.2)
    rw [List.append_assoc] at hnext
    exact hnext

theorem entries_eq : m.entries = gathered ps := by
  rw [m.entries_eq_filterMap_keys, h.keys_eq, gathered]
  simp only [h.get?_eq]

theorem contains_eq (x : String) : m.contains x = (ps.map Prod.fst).contains x := by
  rw [Bool.eq_iff_iff, contains, List.contains_iff_mem, h.keys_eq, mem_distinct,
    List.contains_iff_mem]

theorem size_eq : m.size = (distinct (ps.map Prod.fst)).length := by
  rw [← h.keys_eq, keys, List.length_map, size]

end Gathers

theorem gathers_ofList (ps : List (String × α)) : (ofList ps).Gathers ps :=
  gathers_empty.insertAll ps

theorem ofList_take_add_one {ps : List (String × α)} {i : Nat} {k : String} {v : α}
    (h : ps[i]? = some (k, v)) : ofList (ps.take (i + 1)) = (ofList (ps.take i)).insert k v := by
  rw [List.take_add_one, h]
  exact List.foldl_append

end OrderedMap

namespace Substitution

open OrderedMap (gathered gathers_ofList)

def bindAll (s : Substitution) : List (String × Term) → List (Option Term) × Substitution
  | [] => ([], s)
  | (name, t) :: ps =>
    let bound := s.bind name t
    let rest := bindAll bound.2 ps
    (bound.1 :: rest.1, rest.2)

theorem bindAll_eq (s : Substitution) (ps : List (String × Term)) :
    s.bindAll ps =
      (ps.mapIdx fun i p => (s.insertAll (ps.take i)).get? p.1, s.insertAll ps) := by
  induction ps generalizing s with
  | nil => rfl
  | cons p ps ih =>
    rw [List.mapIdx_cons]
    exact congrArg (fun rest => (s.get? p.1 :: rest.1, rest.2)) (ih (s.insert p.1 p.2))

theorem bindAll_empty (ps : List (String × Term)) :
    bindAll .empty ps = (ps.mapIdx fun i p => (ps.take i).reverse.lookup p.1, .ofList ps) := by
  rw [bindAll_eq]
  congr 2
  funext i p
  exact (gathers_ofList (ps.take i)).get?_eq p.1

section Listings

variable (reader : NumberReader)

def readPairs : Json → Read (List (String × Term))
  | .object members => members.mapM (readBinding reader)
  | _ => Read.malformed

def listed (v : Json) : Read (List (String × Term)) := v.readSole "map" (readPairs reader)

theorem read_eq_map_listed (text : String) :
    read reader text = OrderedMap.ofList <$> Json.readText (listed reader) text := by
  have hbindings (v : Json) :
      readBindings reader v = OrderedMap.ofList <$> readPairs reader v := by
    cases v with
    | object members => rfl
    | _ => rfl
  exact Read.readText_map (Read.readSole_map hbindings "map") text

theorem read_listing {ps : List (String × Term)}
    (h : reader.RestoresAll (ps.flatMap fun p => p.2.numbers)) :
    read reader (listing ps).render =
      if Brackets.count (listing ps).render ≤ 127 then .ok (.ofList ps) else .error .malformed := by
  rw [read, (nests_listing h).written.readText_render, ofJson_listing h, count_render_listing]

end Listings

theorem pairs_keep_first_place_and_last_term (reader : NumberReader)
    (ps : List (String × Term)) :
    let s : Substitution := .ofList ps
    let text := (listing ps).render
    s.keys = distinct (ps.map Prod.fst) ∧ s.entries = gathered ps ∧
      bindAll .empty ps = (ps.mapIdx fun i p => (ps.take i).reverse.lookup p.1, s) ∧
      (reader.RestoresAll (ps.flatMap fun p => p.2.numbers) → read reader text =
        if Brackets.count text ≤ 127 then .ok s else .error .malformed) ∧
      (∀ other, Json.readText (listed reader) other = .ok ps → read reader other = .ok s) ∧
      (∀ i,
        let bound := (bindAll .empty (ps.take i)).2
        bound.entries = gathered (ps.take i) ∧
          bound.size = (distinct ((ps.take i).map Prod.fst)).length ∧
          ∀ name, bound.get? name = (ps.take i).reverse.lookup name ∧
            bound.contains name = ((ps.take i).map Prod.fst).contains name) ∧
      ∀ i name t, ps[i]? = some (name, t) →
        let before := (bindAll .empty (ps.take i)).2
        let after := (bindAll .empty (ps.take (i + 1))).2
        before.bind name t = (before.get? name, after) ∧
          ∀ (j : Nat) (e : String × Term), e.1 ≠ name →
            (after.entries[j]? = some e ↔ before.entries[j]? = some e) := by
  intro s text
  have hs := gathers_ofList ps
  refine ⟨hs.keys_eq, hs.entries_eq, bindAll_empty ps, read_listing reader, ?_, ?_, ?_⟩
  · intro other hother
    rw [read_eq_map_listed, hother]
    rfl
  · intro i
    have htake := gathers_ofList (ps.take i)
    rw [bindAll_empty]
    exact ⟨htake.entries_eq, htake.size_eq, fun name => ⟨htake.get?_eq name, htake.contains_eq name⟩⟩
  · intro i name t h
    rw [bindAll_empty, bindAll_empty, OrderedMap.ofList_take_add_one h]
    exact ⟨rfl, fun j e he => OrderedMap.getElem?_put_of_ne he t _ j⟩

theorem pairs_keep_first_place_and_last_term_again :
    let zero : Term := .num ⟨false, 0, by decide⟩
    let ps : List (String × Term) := [("?x", .const "a"), ("?y", .var "?x"), ("?x", zero)]
    let text := "[\x7b\"?x\": [\"Constant\", \"a\"], \"?y\": [\"Variable\", \"?x\"], " ++
      "\"?x\": [\"Number\", 0]\x7d]"
    let before := (bindAll .empty (ps.take 2)).2
    let after := (bindAll .empty ps).2
    Json.readText (listed .scaling) text = .ok ps ∧ read .scaling text = .ok (.ofList ps) ∧
      NumberReader.scaling.RestoresAll [⟨false, 0, by decide⟩] ∧
      read .scaling (listing ps).render = .ok (.ofList ps) ∧
      (OrderedMap.ofList ps).entries = [("?x", zero), ("?y", .var "?x")] ∧
      ps[2]? = some ("?x", zero) ∧ before.bind "?x" zero = (some (.const "a"), after) ∧
      "?y" ≠ "?x" ∧ before.entries[1]? = some ("?y", .var "?x") ∧
      after.entries[1]? = some ("?y", .var "?x") := by
  intro zero ps text before after
  obtain ⟨-, hentries, -, hlisting, hread, -, hbind⟩ :=
    pairs_keep_first_place_and_last_term .scaling ps
  have htext : Json.readText (listed .scaling) text = .ok ps := by decide +kernel
  have hrestores : NumberReader.scaling.RestoresAll [⟨false, 0, by decide⟩] := by decide +kernel
  have hcount : Brackets.count (listing ps).render = 3 := count_render_listing ps
  have hlisted := hlisting hrestores
  rw [hcount, if_pos (by decide)] at hlisted
  have hgathered : gathered ps = [("?x", zero), ("?y", .var "?x")] := by decide +kernel
  have hthird : ps[2]? = some ("?x", zero) := rfl
  have hne : "?y" ≠ "?x" := by decide
  have hbefore : before.entries[1]? = some ("?y", .var "?x") := by decide +kernel
  obtain ⟨hreturned, hplaces⟩ := hbind 2 "?x" zero hthird
  exact ⟨htext, hread text htext, hrestores, hlisted, hentries.trans hgathered, hthird, hreturned,
    hne, hbefore, (hplaces 1 ("?y", .var "?x") hne).mpr hbefore⟩

/-- A term under 63 minus signs can be bound, but its text has two brackets more than are read. -/
theorem deep_pair_is_not_read :
    let zero : Number := ⟨false, 0, by decide⟩
    let ps : List (String × Term) := [("?x", Term.minus^[63] (.num zero))]
    (bindAll .empty ps).2.entries = ps ∧ (OrderedMap.ofList ps).entries = ps ∧
      Brackets.count (listing ps).render = 129 ∧
      ∀ reader : NumberReader,
        (reader.Restores zero → read reader (listing ps).render = .error .malformed) ∧
          ∀ text s, read reader text = .ok s → s.entries ≠ ps := by
  intro zero ps
  have hcount : Brackets.count (listing ps).render = 129 := count_render_listing ps
  refine ⟨rfl, rfl, hcount, fun reader => ⟨?_, ?_⟩⟩
  · intro hzero
    have hrestores : reader.RestoresAll (ps.flatMap fun p => p.2.numbers) :=
      List.forall_mem_singleton.mpr hzero
    rw [read_listing reader hrestores, hcount]
    rfl
  · intro text s hread hs
    have hnesting : s.nesting ≤ 127 := Read.yields_readText yields_ofJson text s hread
    rw [Substitution.nesting, hs] at hnesting
    exact absurd hnesting (by decide)

end Substitution

end PlanComparison
