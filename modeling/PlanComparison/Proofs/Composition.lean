import PlanComparison.Proofs.Expression

namespace PlanComparison

namespace Substitution

theorem get?_compose (s r : Substitution) (name : String) :
    (s.compose r).get? name = ((s.get? name).map (Term.apply r)).or (r.get? name) := by
  rw [compose, OrderedMap.get?_union, OrderedMap.get?_map]

end Substitution

namespace Term

theorem apply_var (s : Substitution) (name : String) :
    (var name).apply s = (s.get? name).getD (var name) := rfl

theorem apply_compose (s r : Substitution) (t : Term) :
    t.apply (s.compose r) = (t.apply s).apply r := by
  induction t with
  | var name =>
    rw [apply_var, apply_var, Substitution.get?_compose]
    cases s.get? name with
    -- Only the composite looks up `name` in `r` at once; `s` leaves it to the second pass.
    | none => rfl
    | some u => rfl
  | const name => rfl
  | num x => rfl
  | minus a ih => rw [apply, apply, apply, ih]
  | binary op a b iha ihb => rw [apply, apply, apply, iha, ihb]

end Term

theorem Expression.apply_compose_eq (s r : Substitution) (x : Expression) :
    x.apply (s.compose r) = (x.apply s).apply r := by
  cases x with
  | term t => simp only [Expression.apply, Term.apply_compose]
  | comparison c => simp only [Expression.apply, Comparison.apply, Term.apply_compose]
  | equality e => simp only [Expression.apply, Equality.apply, Term.apply_compose]

theorem Term.apply_empty (t : Term) : t.apply .empty = t := by
  induction t with
  | var name => rfl
  | const name => rfl
  | num x => rfl
  | minus a ih => rw [apply, ih]
  | binary op a b iha ihb => rw [apply, iha, ihb]

namespace Substitution

theorem compose_assoc (s r q : Substitution) :
    (s.compose r).compose q = s.compose (r.compose q) := by
  have happly : Term.apply (r.compose q) = Term.apply q ∘ Term.apply r :=
    funext (Term.apply_compose r q)
  calc (s.compose r).compose q
      = (((s.map (Term.apply r)).map (Term.apply q)).union (r.map (Term.apply q))).union q := by
        rw [compose, compose, OrderedMap.map_union]
    _ = (s.map (Term.apply (r.compose q))).union ((r.map (Term.apply q)).union q) := by
        rw [OrderedMap.union_assoc, OrderedMap.map_map, happly]

theorem empty_compose (s : Substitution) : compose .empty s = s :=
  OrderedMap.empty_union s

theorem compose_empty (s : Substitution) : s.compose .empty = s := by
  have happly : Term.apply .empty = id := funext Term.apply_empty
  rw [compose, OrderedMap.union_empty, happly, OrderedMap.map_id]

theorem keys_compose (s r : Substitution) :
    (s.compose r).keys = s.keys ++ r.keys.filter fun name => !s.contains name := by
  have hcontains (name : String) : (s.map (Term.apply r)).contains name = s.contains name := by
    rw [OrderedMap.contains, OrderedMap.keys_map, OrderedMap.contains]
  rw [compose, OrderedMap.keys_union, OrderedMap.keys_map]
  simp only [hcontains]

theorem compose_is_monoid (s r q : Substitution) :
    (s.compose r).compose q = s.compose (r.compose q) ∧
      compose .empty s = s ∧ s.compose .empty = s ∧
      (s.compose r).keys = s.keys ++ r.keys.filter (fun name => !s.contains name) ∧
      (s.compose r).keys.Nodup :=
  ⟨compose_assoc s r q, empty_compose s, compose_empty s, keys_compose s r, (s.compose r).nodup⟩

end Substitution

end PlanComparison
