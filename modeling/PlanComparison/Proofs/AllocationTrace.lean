import PlanComparison.Proofs.AllocationOrder
import PlanComparison.Proofs.RenamedSubstitution
import PlanComparison.Proofs.SubstitutedVariables

namespace PlanComparison

namespace Renaming

variable {α β : Type}

def events (x : Renaming α) (c : Context) : List Event := (x c).events

def Reports (x : Renaming α) : Prop :=
  ∀ c, ∃ added, (final x c).images.entries = c.images.entries ++ added ∧
    events x c = added.map fun e => .renamed e.1 e.2

namespace Reports

theorem pure (a : α) : Reports (pure a) := fun _ => ⟨[], (List.append_nil _).symm, rfl⟩

theorem bind {x : Renaming α} {f : α → Renaming β} (hx : Reports x) (hf : ∀ a, Reports (f a)) :
    Reports (x >>= f) := by
  intro c
  obtain ⟨first, hfirst, hevents⟩ := hx c
  obtain ⟨later, hlater, hevents'⟩ := hf (result x c) (final x c)
  refine ⟨first ++ later, ?_, ?_⟩
  · rw [final_bind, hlater, hfirst, List.append_assoc]
  · have hbind : events (x >>= f) c = events x c ++ events (f (result x c)) (final x c) := rfl
    rw [hbind, hevents, hevents', List.map_append]

end Reports

end Renaming

open Renaming

theorem imageOf_reports (name : String) : Reports (imageOf name) := by
  intro c
  cases h : c.images.get? name with
  | some image =>
    rw [final, events, imageOf_of_some h]
    exact ⟨[], (List.append_nil _).symm, rfl⟩
  | none =>
    rw [final, events, imageOf_of_none h]
    exact ⟨[(name, c.fresh name)], Context.entries_record h, rfl⟩

theorem Term.standardize_reports (t : Term) : Reports t.standardize := by
  induction t with
  | var name => exact (imageOf_reports name).bind fun image => .pure _
  | const name => exact .pure _
  | num x => exact .pure _
  | minus a ih => exact ih.bind fun a => .pure _
  | binary op a b iha ihb => exact iha.bind fun a => ihb.bind fun b => .pure _

theorem Expression.standardize_reports (x : Expression) : Reports x.standardize := by
  cases x with
  | term t => exact t.standardize_reports.bind fun t => .pure _
  | comparison c =>
    have hc : Reports c.standardize :=
      c.left.standardize_reports.bind fun a => c.right.standardize_reports.bind fun b => .pure _
    exact hc.bind fun c => .pure _
  | equality e =>
    have he : Reports e.standardize :=
      e.left.standardize_reports.bind fun a => e.right.standardize_reports.bind fun b => .pure _
    exact he.bind fun e => .pure _

namespace Context

variable {c d : Context} (hc : c.Numbered) (hd : d.Numbered) (hscheme : d.scheme = c.scheme)

include hc hscheme

theorem index_add (j : Nat) :
    d.index (c.images.entries.length + j) = c.nextIndex + UInt64.ofNat j := by
  rw [index, hscheme, hc.next, index, UInt64.ofNat_add, UInt64.add_assoc]

variable {added : List (String × String)}
  (hadded : d.images.entries = c.images.entries ++ added)

include hd hadded

theorem nextIndex_of_added : d.nextIndex = c.nextIndex + UInt64.ofNat added.length := by
  rw [hd.next, hadded, List.length_append, index_add hc hscheme]

theorem added_eq_mapIdx : added = (added.map Prod.fst).mapIdx fun j name =>
    (name, c.scheme.freshName name (c.nextIndex + UInt64.ofNat j).toNat) := by
  apply List.ext_getElem?
  intro j
  rw [List.getElem?_mapIdx, List.getElem?_map]
  cases hj : added[j]? with
  | none => rfl
  | some e =>
    have hplace : d.images.entries[c.images.entries.length + j]? = some (e.1, e.2) := by
      rw [hadded, List.getElem?_append_right (Nat.le_add_right _ _), Nat.add_sub_cancel_left, hj]
    have himage := hd.image _ _ _ hplace
    rw [index_add hc hscheme, hscheme] at himage
    rw [Option.map_some, Option.map_some, ← himage]

end Context

namespace Expression

theorem occurrences_apply_renaming (x : Expression) (c : Context) :
    (x.apply c.renaming).occurrences = x.occurrences.map c.image := by
  have hvar (name : String) :
      ((Term.var name).apply c.renaming).occurrences = [c.image name] := by
    rw [c.apply_renaming_var]
    rfl
  rw [occurrences_apply, List.map_eq_flatMap]
  simp only [hvar]

theorem vars_subset_keys_final (x : Expression) (c : Context) :
    x.vars ⊆ (final x.standardize c).images.keys := by
  intro name hname
  rw [keys_final_standardize, List.mem_append, List.mem_filter]
  by_cases hkey : name ∈ c.images.keys
  · exact .inl hkey
  · exact .inr ⟨hname, by simpa using hkey⟩

section Numbered

variable {c : Context} (hc : c.Numbered) (x : Expression)

include hc

theorem vars_result_standardize :
    (result x.standardize c).vars = x.vars.map (final x.standardize c).image := by
  have hnumbered := (x.standardize_grows c).numbered hc
  have hkeys : ∀ name ∈ x.occurrences, name ∈ (final x.standardize c).images.keys := by
    intro name hname
    rw [← mem_distinct, ← vars_eq_distinct] at hname
    exact x.vars_subset_keys_final c hname
  rw [x.standardize_eq_apply .refl, vars_eq_distinct, occurrences_apply_renaming, vars_eq_distinct]
  -- No two variables become one, so no image is dropped as a repeat.
  exact distinct_map_of_injOn fun a ha b hb => hnumbered.image_injOn (hkeys a ha) (hkeys b hb)

theorem map_get?_vars :
    x.vars.map (final x.standardize c).images.get? = (result x.standardize c).vars.map some := by
  rw [x.vars_result_standardize hc, List.map_map]
  apply List.map_congr_left
  intro name hname
  obtain ⟨image, himage⟩ := (Context.mem_keys_iff _ name).mp (x.vars_subset_keys_final c hname)
  rw [Function.comp_apply, Context.image, himage, Option.getD_some]

theorem standardize_records :
    let new := x.vars.filter (· ∉ c.images.keys)
    let added := new.mapIdx fun j name =>
      (name, c.scheme.freshName name (c.nextIndex + UInt64.ofNat j).toNat)
    let d := final x.standardize c
    d.images.entries = c.images.entries ++ added ∧
      d.nextIndex = c.nextIndex + UInt64.ofNat new.length ∧
      events x.standardize c = added.map fun e => .renamed e.1 e.2 := by
  intro new added d
  have hgrows : c.Grows d := x.standardize_grows c
  have hd : d.Numbered := hgrows.numbered hc
  obtain ⟨pairs, hentries, hevents⟩ := x.standardize_reports c
  have hnames : pairs.map Prod.fst = new := by
    have hkeys := x.keys_final_standardize c
    rw [OrderedMap.keys, hentries, List.map_append] at hkeys
    exact List.append_cancel_left hkeys
  have hnext := Context.nextIndex_of_added hc hd hgrows.scheme_eq hentries
  -- How many names are new, and which, is known from the names alone; the numbers follow from it.
  have hpairs := Context.added_eq_mapIdx hc hd hgrows.scheme_eq hentries
  have hcount : pairs.length = new.length := by rw [← hnames, List.length_map]
  rw [hnames] at hpairs
  rw [hcount] at hnext
  rw [hpairs] at hentries hevents
  exact ⟨hentries, hnext, hevents⟩

end Numbered

theorem allocation_follows_variables {start : Context} (hstart : start.Initial)
    (requests : List Request) (x : Expression) :
    let c := start.serve requests
    let d := final x.standardize c
    let new := x.vars.filter (· ∉ c.images.keys)
    let added := new.mapIdx fun j name =>
      (name, name ++ c.scheme.separator ++ decimalText (c.nextIndex.toNat + j))
    (c.nextIndex.toNat + new.length < UInt64.size →
      d.images.entries = c.images.entries ++ added ∧
        d.nextIndex.toNat = c.nextIndex.toNat + new.length ∧
        events x.standardize c = added.map fun e => .renamed e.1 e.2) ∧
      (∀ e ∈ events x.standardize c, e.level = .trace) ∧
      x.vars.map d.images.get? = (result x.standardize c).vars.map some := by
  intro c d new added
  have hc : c.Numbered := (start.serve_grows requests).numbered hstart.numbered
  obtain ⟨hentries, hnext, hevents⟩ := x.standardize_records hc
  refine ⟨?_, ?_, x.map_get?_vars hc⟩
  · intro hbound
    have hindex : new.mapIdx (fun j name =>
        (name, c.scheme.freshName name (c.nextIndex + UInt64.ofNat j).toNat)) = added := by
      apply List.mapIdx_eq_mapIdx_iff.mpr
      intro j hj
      rw [Context.toNat_add_ofNat _ j (by omega), Scheme.freshName]
    rw [hindex] at hentries hevents
    refine ⟨hentries, ?_, hevents⟩
    rw [hnext, Context.toNat_add_ofNat _ _ hbound]
  · intro e he
    rw [hevents] at he
    obtain ⟨pair, -, rfl⟩ := List.mem_map.mp he
    rfl

theorem allocation_follows_variables_tilde :
    let start : Context := ⟨⟨"~", 7⟩, 7, .empty⟩
    let c := start.serve [.image "?b"]
    let x : Expression := .comparison ⟨.less, .binary .add (.var "?a") (.var "?b"), .var "?a~8"⟩
    let new := x.vars.filter (· ∉ c.images.keys)
    start.Initial ∧ new = ["?a", "?a~8"] ∧ c.nextIndex.toNat + new.length < UInt64.size ∧
      (final x.standardize c).images.entries =
        [("?b", "?b~7"), ("?a", "?a~8"), ("?a~8", "?a~8~9")] ∧
      events x.standardize c = [.renamed "?a" "?a~8", .renamed "?a~8" "?a~8~9"] ∧
      Event.level (.renamed "?a" "?a~8") = .trace ∧
      (result x.standardize c).vars.map some = [some "?a~8", some "?b~7", some "?a~8~9"] := by
  intro start c x new
  have hstart : start.Initial := .withScheme (s := ⟨"~", 7⟩) rfl
  obtain ⟨hallocated, htrace, hvars⟩ := allocation_follows_variables hstart [.image "?b"] x
  have hnew : new = ["?a", "?a~8"] := by decide +kernel
  have hbound : c.nextIndex.toNat + new.length < UInt64.size := by decide +kernel
  obtain ⟨hentries, -, hevents⟩ := hallocated hbound
  have hadded : (new.mapIdx fun j name =>
      (name, name ++ c.scheme.separator ++ decimalText (c.nextIndex.toNat + j))) =
        [("?a", "?a~8"), ("?a~8", "?a~8~9")] := by decide +kernel
  have hknown : c.images.entries = [("?b", "?b~7")] := by decide +kernel
  have himages : x.vars.map (final x.standardize c).images.get? =
      [some "?a~8", some "?b~7", some "?a~8~9"] := by decide +kernel
  rw [hadded] at hentries hevents
  rw [hknown] at hentries
  have hfirst : Event.renamed "?a" "?a~8" ∈ events x.standardize c := by
    rw [hevents]
    exact List.mem_cons_self
  exact ⟨hstart, hnew, hbound, hentries, hevents, htrace _ hfirst, hvars.symm.trans himages⟩

end Expression

end PlanComparison
