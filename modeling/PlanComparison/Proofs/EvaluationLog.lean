import PlanComparison.Proofs.Outcome

namespace PlanComparison

inductive LoggedOnce (text : String) : Except Error Bool → List Entry → Prop
  | evaluated (result : Bool) : LoggedOnce text (.ok result)
      [⟨.debug, "evaluated comparison", [("expression", .text text), ("result", .bool result)]⟩]
  | refused {e : Error} (h : e.kind = .notEvaluable) : LoggedOnce text (.error e)
      [⟨.debug, "comparison is not evaluable", [("expression", .text text)]⟩]
  | failed {e : Error} (h : e.IsArithmetic) : LoggedOnce text (.error e) []

namespace LoggedOnce

variable {text : String} {log : List Entry}

theorem eq_of_ok {result : Bool} (h : LoggedOnce text (.ok result) log) :
    log = [⟨.debug, "evaluated comparison",
      [("expression", .text text), ("result", .bool result)]⟩] := by
  cases h
  rfl

theorem forall_mem_expression {r : Except Error Bool} (h : LoggedOnce text r log) :
    ∀ entry ∈ log, ∀ s, ("expression", .text s) ∈ entry.fields ↔ s = text := by
  cases h with
  | evaluated result => simp
  | refused _ => simp
  | failed _ => exact List.forall_mem_nil _

end LoggedOnce

inductive Judges (c : Comparison) : Logged (Except Error Bool) → Prop
  | calculated {r : Except Error Bool} (h : Calculated r) : Judges c (pure r)
  | refused : Judges c c.refuse

theorem Judges.map {c : Comparison} {x : Logged (Except Error Bool)} (h : Judges c x)
    (f : Bool → Bool) : Judges c (do return (← x).map f) := by
  cases h with
  | calculated hr => exact .calculated (hr.map f)
  | refused => exact .refused

namespace Comparison

theorem judges_equalityVerdict (c : Comparison) : Judges c c.equalityVerdict := by
  rw [equalityVerdict]
  by_cases hnum : c.isNumeric = true
  · rw [if_pos hnum]
    exact .calculated ((calculated_reduce hnum).map _)
  · rw [if_neg hnum]
    cases c.constants? with
    | some names => exact .calculated (.inl ⟨_, rfl⟩)
    | none => exact .refused

theorem judges_orderVerdict (c : Comparison) : Judges c c.orderVerdict := by
  rw [orderVerdict]
  by_cases hnum : c.isNumeric = true
  · rw [if_pos hnum]
    exact .calculated ((calculated_reduce hnum).map _)
  · rw [if_neg hnum]
    exact .refused

theorem judges_verdict (c : Comparison) : Judges c c.verdict := by
  unfold verdict
  split
  · exact c.judges_equalityVerdict
  · exact c.judges_equalityVerdict.map not
  · exact c.judges_orderVerdict

theorem loggedOnce_evaluate (c : Comparison) :
    LoggedOnce c.text c.evaluate.value c.evaluate.log := by
  have h := c.judges_verdict
  rw [evaluate]
  generalize c.verdict = x at h
  cases h with
  | calculated hr =>
    rcases hr with ⟨result, rfl⟩ | ⟨e, rfl, he⟩
    · exact .evaluated result
    · exact .failed he
  | refused => exact .refused rfl

theorem text_notEqual_ne (a b : Term) : (mk .notEqual a b).text ≠ (mk .equal a b).text := by
  intro h
  have hchars := congrArg String.toList h
  simp [text, Comparator.symbol] at hchars

theorem evaluation_is_logged_once :
    (∀ c : Comparison, LoggedOnce c.text c.evaluate.value c.evaluate.log) ∧
      (∀ q : Equality, LoggedOnce q.text q.evaluate.value q.evaluate.log) ∧
      ∀ a b : Term,
        let c : Comparison := ⟨.notEqual, a, b⟩
        let q : Comparison := ⟨.equal, a, b⟩
        outcome c.evaluate.value = (outcome q.evaluate.value).map not ∧
          (∀ result, q.evaluate.value = .ok result → c.evaluate.log =
            [⟨.debug, "evaluated comparison",
              [("expression", .text c.text), ("result", .bool !result)]⟩]) ∧
          ∀ entry ∈ c.evaluate.log, ("expression", .text q.text) ∉ entry.fields := by
  refine ⟨loggedOnce_evaluate, fun q => q.toComparison.loggedOnce_evaluate, ?_⟩
  intro a b c q
  have hlog : LoggedOnce c.text c.evaluate.value c.evaluate.log := c.loggedOnce_evaluate
  have houtcome : outcome c.evaluate.value = (outcome q.evaluate.value).map not :=
    outcome_evaluate_notEqual a b
  refine ⟨houtcome, ?_, ?_⟩
  · intro result hq
    rw [hq] at houtcome
    have hc : c.evaluate.value = .ok !result := outcome_eq_ok_iff.mp houtcome
    rw [hc] at hlog
    exact hlog.eq_of_ok
  · intro entry hentry hmem
    exact text_notEqual_ne a b ((hlog.forall_mem_expression entry hentry _).mp hmem).symm

theorem evaluation_is_logged_once_zeros :
    let zero : Term := .num ⟨false, 0, by decide⟩
    let negated : Term := .num ⟨true, 0, by decide⟩
    let c : Comparison := ⟨.notEqual, zero, negated⟩
    let q : Comparison := ⟨.equal, zero, negated⟩
    let entry : Entry := ⟨.debug, "evaluated comparison",
      [("expression", .text "(!= 0 -0)"), ("result", .bool false)]⟩
    q.evaluate.value = .ok true ∧ c.evaluate.log = [entry] ∧ entry ∈ c.evaluate.log ∧
      q.text = "(= 0 -0)" ∧ ("expression", .text q.text) ∉ entry.fields := by
  intro zero negated c q entry
  obtain ⟨-, -, hnegation⟩ := evaluation_is_logged_once
  obtain ⟨-, hresult, hother⟩ := hnegation zero negated
  have hq : q.evaluate.value = .ok true := by decide +kernel
  have htext : c.text = "(!= 0 -0)" := by decide +kernel
  have hequal : q.text = "(= 0 -0)" := by decide +kernel
  have hlog : c.evaluate.log = [entry] := by
    have h := hresult true hq
    rw [htext] at h
    exact h
  have hmem : entry ∈ c.evaluate.log := by
    rw [hlog]
    exact List.mem_cons_self
  exact ⟨hq, hlog, hmem, hequal, hother entry hmem⟩

end Comparison

end PlanComparison
