import PlanComparison.Proofs.Freshness
import PlanComparison.Proofs.Rereading

namespace PlanComparison.Scheme

open Read

theorem check_eq_error_iff {s : Scheme} {e : Error} : s.check = .error e ↔
    s.separator = "" ∧ e = .emptySeparator ∨
      s.separator ≠ "" ∧ (∃ c ∈ s.separator.toList, c.isDigit = true) ∧
        e = .digitInSeparator s.separator := by
  have hdigit : (s.separator.toList.any fun c => (Digit.ofChar? c).isSome) = true ↔
      ∃ c ∈ s.separator.toList, c.isDigit = true := by
    simp only [List.any_eq_true, Digit.isSome_ofChar?]
  rw [check, Ne, ← String.isEmpty_iff, ← hdigit]
  split_ifs with hempty hany
  · simp [hempty, @eq_comm _ e]
  · simp [hempty, hany, @eq_comm _ e]
  · simp [hempty, hany]

def refusal (s : Scheme) : String :=
  if s.separator = "" then "Invalid argument: standardize config: separator must not be empty"
  else "Invalid argument: standardize config: separator " ++ Quoted.quote s.separator ++
    " must not contain digits"

theorem refused_of_check {s : Scheme} {e : Error} (h : s.check = .error e) :
    e.kind = .invalidArgument ∧ e.message = s.refusal := by
  rw [refusal]
  rcases check_eq_error_iff.mp h with ⟨hempty, rfl⟩ | ⟨hne, -, rfl⟩
  · rw [if_pos hempty]
    exact ⟨rfl, rfl⟩
  · rw [if_neg hne]
    refine ⟨rfl, ?_⟩
    change "Invalid argument: " ++ ("standardize config: separator " ++ Quoted.quote s.separator ++
      " must not contain digits") = _
    rw [← String.append_assoc, ← String.append_assoc]
    rfl

theorem read_render_eq_ok_iff {s r : Scheme} :
    read s.toJson.render = .ok r ↔ r = s ∧ s.Accepted := by
  rw [read_render, ← check_eq_ok_iff]
  cases s.check <;> simp [accept]

theorem read_render_eq_error_iff {s : Scheme} {fault : ReadError} :
    read s.toJson.render = .error fault ↔ ∃ e, fault = .rejected e ∧ s.check = .error e := by
  rw [read_render]
  cases s.check <;> simp [accept, eq_comm]

theorem both_entrances_have_one_gate (s : Scheme) :
    let text := s.toJson.render
    ((∃ r, read text = .ok r) ↔ ∃ c, Context.withScheme s = .ok c) ∧
      (∀ r, read text = .ok r → r = s) ∧
      (∀ fault, read text = .error fault ↔
        ∃ e, fault = .rejected e ∧ Context.withScheme s = .error e) ∧
      (∀ e, Context.withScheme s = .error e →
        e.kind = .invalidArgument ∧ e.message = s.refusal) ∧
      ((∃ c, Context.withScheme s = .ok c) ↔
        s.separator ≠ "" ∧ ∀ c ∈ s.separator.toList, c.isDigit = false) := by
  intro text
  have hread : (∃ r, read text = .ok r) ↔ s.Accepted := by
    simp only [text, read_render_eq_ok_iff, exists_eq_left]
  have hstart : (∃ c, Context.withScheme s = .ok c) ↔ s.Accepted := by
    simp only [Context.withScheme_eq_ok_iff, exists_eq_left]
  refine ⟨hread.trans hstart.symm, ?_, ?_, ?_, hstart.trans s.accepted_iff⟩
  · intro r hr
    exact (read_render_eq_ok_iff.mp hr).1
  · intro fault
    simp only [text, read_render_eq_error_iff, Context.withScheme_eq_error_iff]
  · intro e he
    exact refused_of_check (Context.withScheme_eq_error_iff.mp he)

/-- One separator has to be escaped and ends in a digit that is not one of the ten, beside the last
of all indices; the other has one of the ten. -/
theorem both_entrances_have_one_gate_digits :
    let s : Scheme := ⟨"\"\n٣", 18446744073709551615⟩
    let text := "\x7b\"separator\":\"\\\"\\n٣\",\"first_index\":18446744073709551615\x7d"
    let r : Scheme := ⟨"\t9", 0⟩
    let fault : Error := .digitInSeparator "\t9"
    s.toJson.render = text ∧ (∃ c, Context.withScheme s = .ok c) ∧
      (∀ q, read text = .ok q → q = s) ∧ read text = .ok s ∧
      Context.withScheme r = .error fault ∧ read r.toJson.render = .error (.rejected fault) ∧
      fault.kind = .invalidArgument ∧ fault.message =
        "Invalid argument: standardize config: separator \"\\t9\" must not contain digits" := by
  intro s text r fault
  have htext : s.toJson.render = text := by decide +kernel
  obtain ⟨hboth, hsame, -, -, haccepted⟩ := both_entrances_have_one_gate s
  obtain ⟨-, -, hfault, hmessage, -⟩ := both_entrances_have_one_gate r
  have hcheck : s.check = .ok s := by decide +kernel
  have hstart : ∃ c, Context.withScheme s = .ok c :=
    haccepted.mpr (s.accepted_iff.mp ((check_eq_ok_iff s s).mp hcheck).2)
  rw [htext] at hboth hsame
  obtain ⟨q, hq⟩ := hboth.mpr hstart
  have hread : read text = .ok s := by
    rw [hq, hsame q hq]
  have hrefused : Context.withScheme r = .error fault :=
    Context.withScheme_eq_error_iff.mpr (by decide +kernel)
  obtain ⟨hkind, hwords⟩ := hmessage fault hrefused
  have hrefusal : r.refusal =
      "Invalid argument: standardize config: separator \"\\t9\" must not contain digits" := by
    decide +kernel
  exact ⟨htext, hstart, hsame, hread, hrefused, (hfault _).mpr ⟨fault, rfl, hrefused⟩, hkind,
    hwords.trans hrefusal⟩

end PlanComparison.Scheme
