import PlanComparison.Proofs.Allocation
import PlanComparison.Proofs.FreshName
import PlanComparison.Proofs.Outcome

namespace PlanComparison

inductive Request where
  | image (name : String)
  | standardize (x : Expression)

def Request.perform : Request → Renaming Unit
  | image name => do discard (imageOf name)
  | standardize x => do discard x.standardize

namespace Context

open Renaming

inductive Initial : Context → Prop
  | new : Initial .new
  | withScheme {s : Scheme} {c : Context} (h : withScheme s = .ok c) : Initial c

def serve (c : Context) (requests : List Request) : Context :=
  requests.foldl (fun c r => final r.perform c) c

theorem perform_grows (r : Request) (c : Context) : c.Grows (final r.perform c) := by
  cases r with
  | image name => exact imageOf_grows name c
  | standardize x => exact x.standardize_grows c

theorem serve_grows (c : Context) (requests : List Request) : c.Grows (c.serve requests) := by
  induction requests generalizing c with
  | nil => exact .refl
  | cons r requests ih => exact (perform_grows r c).trans (ih _)

/-- The index of the image with `k` images before it. -/
def index (c : Context) (k : Nat) : UInt64 := c.scheme.firstIndex + UInt64.ofNat k

theorem toNat_add_ofNat (i : UInt64) (k : Nat) (h : i.toNat + k < UInt64.size) :
    (i + UInt64.ofNat k).toNat = i.toNat + k := by
  rw [UInt64.toNat_add, UInt64.toNat_ofNat_of_lt' (by omega)]
  exact Nat.mod_eq_of_lt h

theorem toNat_index (c : Context) (k : Nat)
    (h : c.scheme.firstIndex.toNat + k < UInt64.size) :
    (c.index k).toNat = c.scheme.firstIndex.toNat + k :=
  toNat_add_ofNat c.scheme.firstIndex k h

/-- Holds whatever the count of images: the index may have started again at zero. -/
structure Numbered (c : Context) : Prop where
  accepted : c.scheme.Accepted
  next : c.nextIndex = c.index c.images.entries.length
  image : ∀ k name image, c.images.entries[k]? = some (name, image) →
    image = c.scheme.freshName name (c.index k).toNat

theorem withScheme_eq_map (s : Scheme) :
    withScheme s = s.check.map fun r => ⟨r, r.firstIndex, .empty⟩ := rfl

theorem withScheme_eq_ok_iff {s : Scheme} {c : Context} :
    withScheme s = .ok c ↔ c = ⟨s, s.firstIndex, .empty⟩ ∧ s.Accepted := by
  rw [withScheme_eq_map, map_eq_ok_iff]
  constructor
  · rintro ⟨r, hr, rfl⟩
    obtain ⟨rfl, hs⟩ := (Scheme.check_eq_ok_iff s r).mp hr
    exact ⟨rfl, hs⟩
  · rintro ⟨rfl, hs⟩
    exact ⟨s, (Scheme.check_eq_ok_iff s s).mpr ⟨rfl, hs⟩, rfl⟩

theorem withScheme_eq_error_iff {s : Scheme} {e : Error} :
    withScheme s = .error e ↔ s.check = .error e := by
  rw [withScheme_eq_map, map_eq_error_iff]

theorem Initial.exists_eq {c : Context} (h : c.Initial) :
    ∃ s : Scheme, s.Accepted ∧ c = ⟨s, s.firstIndex, .empty⟩ := by
  cases h with
  | new => exact ⟨{}, Scheme.accepted_default, rfl⟩
  | @withScheme s _ h =>
    obtain ⟨rfl, hs⟩ := withScheme_eq_ok_iff.mp h
    exact ⟨s, hs, rfl⟩

theorem Initial.numbered {c : Context} (h : c.Initial) : c.Numbered := by
  obtain ⟨s, hs, rfl⟩ := h.exists_eq
  exact ⟨hs, (UInt64.add_zero _).symm, fun _ _ _ h => nomatch h⟩

theorem Numbered.record {c : Context} (h : c.Numbered) {name : String}
    (hnew : c.images.get? name = none) : (c.record name).Numbered where
  accepted := h.accepted
  next := by
    rw [entries_record hnew, List.length_append]
    change c.nextIndex + 1 = c.scheme.firstIndex + UInt64.ofNat (c.images.entries.length + 1)
    rw [h.next, index, UInt64.ofNat_add, UInt64.add_assoc]
    rfl
  image := by
    intro k other image hk
    rw [entries_record hnew] at hk
    rcases Nat.lt_trichotomy k c.images.entries.length with hlt | heq | hgt
    · rw [List.getElem?_append_left hlt] at hk
      exact h.image k other image hk
    · subst heq
      rw [List.getElem?_concat_length] at hk
      cases hk
      exact congrArg (fun i : UInt64 => c.scheme.freshName name i.toNat) h.next
    · rw [List.getElem?_eq_none (by rw [List.length_append]; exact hgt)] at hk
      cases hk

theorem Grows.numbered {c d : Context} (h : c.Grows d) (hc : c.Numbered) : d.Numbered := by
  induction h with
  | refl => exact hc
  | record name _ hnew ih => exact ih.record hnew

theorem Numbered.image_inj {c : Context} (h : c.Numbered) {a b image : String}
    (ha : c.images.get? a = some image) (hb : c.images.get? b = some image) : a = b := by
  obtain ⟨i, hi⟩ := List.mem_iff_getElem?.mp ((c.images.get?_eq_some_iff a image).mp ha)
  obtain ⟨j, hj⟩ := List.mem_iff_getElem?.mp ((c.images.get?_eq_some_iff b image).mp hb)
  have hname := (h.image i a image hi).symm.trans (h.image j b image hj)
  exact (Scheme.freshName_inj h.accepted hname).1

theorem images_stay_fresh {start : Context} (hstart : start.Initial)
    (before later : List Request) :
    let c := start.serve before
    let d := c.serve later
    (∀ a b image : String, d.images.get? a = some image → d.images.get? b = some image → a = b) ∧
      (start.scheme.firstIndex.toNat + d.images.size < UInt64.size →
        ∀ (k : Nat) (name image : String), d.images.entries[k]? = some (name, image) →
          image = name ++ start.scheme.separator ++
            decimalText (start.scheme.firstIndex.toNat + k)) ∧
      ∀ (k : Nat) (name image : String), c.images.entries[k]? = some (name, image) →
        d.images.entries[k]? = some (name, image) ∧ imageOf name d = ⟨(image, d), []⟩ := by
  intro c d
  have hc : start.Grows c := start.serve_grows before
  have hd : c.Grows d := c.serve_grows later
  have hnumbered : d.Numbered := (hc.trans hd).numbered hstart.numbered
  have hscheme : d.scheme = start.scheme := (hc.trans hd).scheme_eq
  refine ⟨fun a b image => hnumbered.image_inj, ?_, ?_⟩
  · intro hbound k name image hk
    have hlt : k < d.images.size := (List.getElem?_eq_some_iff.mp hk).1
    have himage := hnumbered.image k name image hk
    rw [toNat_index d k (by rw [hscheme]; omega), hscheme] at himage
    exact himage
  · intro k name image hk
    have hrecorded : c.images.get? name = some image :=
      (c.images.get?_eq_some_iff name image).mpr (List.mem_of_getElem? hk)
    exact ⟨hd.getElem? hk, imageOf_of_some (hd.get? hrecorded)⟩

theorem images_stay_fresh_tilde :
    let start : Context := ⟨⟨"~", 7⟩, 7, .empty⟩
    let c := start.serve [.standardize (.comparison ⟨.less, .var "?a", .var "?a~7"⟩)]
    let d := c.serve [.image "?b"]
    start.Initial ∧ 7 + d.images.size < UInt64.size ∧
      c.images.entries[1]? = some ("?a~7", "?a~7~8") ∧
      d.images.entries[1]? = some ("?a~7", "?a~7~8") ∧
      imageOf "?a~7" d = ⟨("?a~7~8", d), []⟩ ∧
      "?a~7~8" = "?a~7" ++ "~" ++ decimalText (7 + 1) := by
  intro start c d
  have hstart : start.Initial := .withScheme (s := ⟨"~", 7⟩) rfl
  have hsize : 7 + d.images.size < UInt64.size := by decide +kernel
  have hrecorded : c.images.entries[1]? = some ("?a~7", "?a~7~8") := by decide +kernel
  obtain ⟨-, hnamed, hkept⟩ := images_stay_fresh hstart
    [.standardize (.comparison ⟨.less, .var "?a", .var "?a~7"⟩)] [.image "?b"]
  obtain ⟨hplace, himage⟩ := hkept 1 _ _ hrecorded
  exact ⟨hstart, hsize, hrecorded, hplace, himage, hnamed hsize 1 _ _ hplace⟩

end Context

end PlanComparison
