import Mathlib.Data.List.Nodup
import PlanComparison.Proofs.Freshness
import PlanComparison.Proofs.RecordedRenaming

namespace PlanComparison

open Renaming

namespace Context

def restoring (c : Context) : Substitution :=
  OrderedMap.ofList (c.images.entries.map fun e => (e.2, Term.var e.1))

theorem Numbered.entry_inj {c : Context} (h : c.Numbered) {e f : String × String}
    (he : e ∈ c.images.entries) (hf : f ∈ c.images.entries) (himage : e.2 = f.2) : e = f := by
  have ha := (c.images.get?_eq_some_iff e.1 e.2).mpr he
  have hb := (c.images.get?_eq_some_iff f.1 f.2).mpr hf
  rw [← himage] at hb
  exact Prod.ext (h.image_inj ha hb) himage

theorem Numbered.nodup_images {c : Context} (h : c.Numbered) :
    (c.images.entries.map Prod.snd).Nodup :=
  (c.images.nodup.of_map _).map_on fun _ he _ hf => h.entry_inj he hf

theorem Numbered.get?_restoring {c : Context} (h : c.Numbered) {name image : String}
    (hc : c.images.get? name = some image) : c.restoring.get? image = some (.var name) := by
  have hnodup : ((c.images.entries.map fun e => (e.2, Term.var e.1)).map Prod.fst).Nodup := by
    rw [List.map_map]
    exact h.nodup_images
  rw [OrderedMap.get?_eq_some_iff, restoring, OrderedMap.entries_ofList _ hnodup]
  exact List.mem_map.mpr ⟨(name, image), (c.images.get?_eq_some_iff name image).mp hc, rfl⟩

end Context

theorem Term.apply_restoring (t : Term) {c d : Context} (hd : d.Numbered)
    (h : (final t.standardize c).Grows d) : (result t.standardize c).apply d.restoring = t := by
  induction t generalizing c with
  | var name =>
    have hget := hd.get?_restoring (h.get? (get?_final_imageOf name c))
    exact congrArg (Option.getD · _) hget
  | const name => rfl
  | num x => rfl
  | minus a ih => exact congrArg Term.minus (ih h)
  | binary op a b iha ihb =>
    have ha := iha ((b.standardize_grows _).trans h)
    exact congrArg₂ (Term.binary op) ha (ihb h)

theorem Comparison.apply_restoring (x : Comparison) {c d : Context} (hd : d.Numbered)
    (h : (final x.standardize c).Grows d) : (result x.standardize c).apply d.restoring = x := by
  have hleft := x.left.apply_restoring hd ((x.right.standardize_grows _).trans h)
  exact congrArg₂ (Comparison.mk x.op) hleft (x.right.apply_restoring hd h)

theorem Equality.apply_restoring (x : Equality) {c d : Context} (hd : d.Numbered)
    (h : (final x.standardize c).Grows d) : (result x.standardize c).apply d.restoring = x := by
  have hleft := x.left.apply_restoring hd ((x.right.standardize_grows _).trans h)
  exact congrArg₂ Equality.mk hleft (x.right.apply_restoring hd h)

namespace Expression

theorem apply_restoring (x : Expression) {c d : Context} (hd : d.Numbered)
    (h : (final x.standardize c).Grows d) : (result x.standardize c).apply d.restoring = x := by
  cases x with
  | term t => exact congrArg term (t.apply_restoring hd h)
  | comparison x => exact congrArg comparison (x.apply_restoring hd h)
  | equality x => exact congrArg equality (x.apply_restoring hd h)

theorem standardize_loses_nothing {start : Context} (hstart : start.Initial)
    (requests : List Request) (x : Expression) :
    let c := start.serve requests
    let d := final x.standardize c
    (result x.standardize c).apply d.restoring = x := by
  intro c d
  have hgrows : start.Grows d := (start.serve_grows requests).trans (x.standardize_grows c)
  exact x.apply_restoring (hgrows.numbered hstart.numbered) .refl

theorem standardize_loses_nothing_overlap :
    let x : Expression := .comparison ⟨.less, .var "?x", .minus (.var "?x_1")⟩
    let c := Context.new.serve [.image "?y"]
    let d := final x.standardize c
    Context.Initial .new ∧
      result x.standardize c = .comparison ⟨.less, .var "?x_1", .minus (.var "?x_1_2")⟩ ∧
      (result x.standardize c).apply d.restoring = x := by
  intro x c d
  have hrenamed : result x.standardize c =
      .comparison ⟨.less, .var "?x_1", .minus (.var "?x_1_2")⟩ := by decide +kernel
  exact ⟨.new, hrenamed, standardize_loses_nothing .new [.image "?y"] x⟩

end Expression

end PlanComparison
