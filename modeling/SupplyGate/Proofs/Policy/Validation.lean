import SupplyGate.Policy.Fold
import SupplyGate.Policy.Validation
import SupplyGate.Proofs.Value.Reading

/-!
# What validation promises

The rules of a policy without problems have severities on the scale, and conditions that say how they
are joined (`checked_of_check`). Nothing is promised about the kind of value that names the field of a
condition, so the conditions of such a rule fold just when their fields are texts (`ConditionOutcome.of_ok_iff`).
-/

namespace SupplyGate

/-- What validation promises about a rule: its severity is on the scale, and each condition says how it
is joined to the next one. -/
structure Rule.Checked (r : Rule) : Prop where
  severity : ∃ severity, r.severity = .held severity
  joins : ∀ k ∈ r.conditions, ∃ j, k.join = .ok j

/-- What validation promises about a policy. -/
def Policy.Checked (p : Policy) : Prop := ∀ r ∈ p.rules, r.Checked

/-- What is known of a policy that was stored: what validation promises, and that its id is a key. -/
structure Policy.Accepted (p : Policy) : Prop where
  checked : p.Checked
  id : ∃ k, p.id = .scalar k

namespace Validation

theorem when_eq_nil {there : Bool} {problem : String} : when there problem = [] ↔ there = false := by
  cases there <;> simp [when]

/-! ## Rules without problems -/

theorem whenNaming_eq_nil {there : Bool} {problem : String → String} {v : Value} :
    whenNaming there problem v = .ok [] ↔ there = false := by
  cases there with
  | false => simp [whenNaming]
  | true => cases ht : v.text <;> simp [whenNaming, ht]

/-- A condition whose joining is on the scale says how it is joined to the next one. -/
theorem joins_ok {k : Condition} (h : joins k = .ok true) : ∃ j, k.join = .ok j := by
  unfold joins at h
  unfold Condition.join
  split at h
  · next ht =>
    obtain ⟨text, htext, h⟩ := Reading.bind_eq_ok.mp h
    obtain ⟨j, hj⟩ := Option.isSome_iff_exists.mp (Reading.pure_eq_ok.mp h)
    refine ⟨j, ?_⟩
    rw [if_pos ht, Scale.readUpper, htext]
    exact Scale.read_ok hj
  · next ht => exact ⟨.all, by rw [if_neg ht]⟩

/-- A condition without problems says how it is joined to the next one. -/
theorem conditionProblems_ok {place : String} {k : Condition} (h : conditionProblems place k = .ok []) :
    ∃ j, k.join = .ok j := by
  obtain ⟨known, -, h⟩ := Reading.bind_eq_ok.mp h
  obtain ⟨operator, -, h⟩ := Reading.bind_eq_ok.mp h
  obtain ⟨joined, hjoined, h⟩ := Reading.bind_eq_ok.mp h
  obtain ⟨join, hjoin, h⟩ := Reading.bind_eq_ok.mp h
  have h := Reading.pure_eq_ok.mp h
  simp only [List.append_eq_nil_iff] at h
  obtain ⟨-, rfl⟩ := h
  rw [whenNaming_eq_nil, Bool.not_eq_false'] at hjoin
  exact joins_ok (hjoin ▸ hjoined)

theorem severityProblems_eq_nil {place : String} {severity : Loose Severity} :
    severityProblems place severity = .ok [] ↔ ∃ a, severity = .held a := by
  cases severity with
  | held a => simp [severityProblems]
  | raw v => simp [severityProblems, whenNaming_eq_nil]

theorem ruleProblems_ok {r : Rule} {index : Nat} (h : ruleProblems r index = .ok []) : r.Checked := by
  obtain ⟨severity, hs, h⟩ := Reading.bind_eq_ok.mp h
  obtain ⟨conditions, hc, h⟩ := Reading.bind_eq_ok.mp h
  have h := Reading.pure_eq_ok.mp h
  simp only [List.append_eq_nil_iff] at h
  obtain ⟨⟨⟨⟨⟨-, rfl⟩, -⟩, -⟩, hnone⟩, -⟩ := h
  refine ⟨severityProblems_eq_nil.mp hs, fun k hk => ?_⟩
  obtain ⟨j, found, hfound, hproblems⟩ := exists_of_zipIdx_mapM_ok hc hk
  rw [List.flatten_eq_nil_iff.mp hnone found hfound] at hproblems
  exact conditionProblems_ok hproblems

/-! ## Policies without problems -/

theorem check_ok {p : Policy} : check p = .ok () ↔ problems p = .ok [] := by
  unfold check
  rw [Reading.bind_eq_ok]
  constructor
  · rintro ⟨found, hf, h⟩
    cases found with
    | nil => exact hf
    | cons _ _ => cases h
  · intro h
    exact ⟨[], h, rfl⟩

theorem checked_of_check {p : Policy} (h : check p = .ok ()) : p.Checked := by
  obtain ⟨nameless, -, h⟩ := Reading.bind_eq_ok.mp (check_ok.mp h)
  obtain ⟨rules, hr, h⟩ := Reading.bind_eq_ok.mp h
  have h := Reading.pure_eq_ok.mp h
  simp only [List.append_eq_nil_iff] at h
  have hnone := h.2
  intro r hmem
  obtain ⟨i, found, hfound, hproblems⟩ := exists_of_zipIdx_mapM_ok hr hmem
  rw [List.flatten_eq_nil_iff.mp hnone found hfound] at hproblems
  exact ruleProblems_ok hproblems

theorem isBlankName_eq_false {v : Value} (h : isBlankName v = .ok false) : ∃ s, v = .str s := by
  unfold isBlankName at h
  split at h
  · cases h
  · split at h
    · exact ⟨_, rfl⟩
    · cases h

/-- The name of a policy without problems is a text. -/
theorem name_of_check {p : Policy} (h : check p = .ok ()) : ∃ s, p.name = .str s := by
  obtain ⟨nameless, hname, hrules⟩ := Reading.bind_eq_ok.mp (check_ok.mp h)
  obtain ⟨rules, -, hnone⟩ := Reading.bind_eq_ok.mp hrules
  have hnone := Reading.pure_eq_ok.mp hnone
  simp only [List.append_eq_nil_iff, when_eq_nil] at hnone
  obtain ⟨⟨rfl, -⟩, -⟩ := hnone
  exact isBlankName_eq_false hname

end Validation

/-! ## Folding -/

theorem Field.nameOf_ok_iff {v : Value} : (∃ name, nameOf v = .ok name) ↔ ∃ name, v = .str name := by
  unfold nameOf
  split <;> simp_all

/-- Conditions that say how they are joined fold just when their fields are texts. -/
theorem ConditionOutcome.of_ok_iff {table : FieldTable} {data : EvaluationData} {conditions : List Condition}
    (h : ∀ k ∈ conditions, ∃ j, k.join = .ok j) :
    (∃ outcome, ConditionOutcome.of table data conditions = .ok outcome) ↔
      ∀ k ∈ conditions, ∃ name, k.field = .str name := by
  have hstep : ∀ k ∈ conditions, ∀ run, (∃ run', advance table data run k = .ok run') ↔
      ∃ name, k.field = .str name := by
    intro k hk run
    rw [← Field.nameOf_ok_iff]
    constructor
    · rintro ⟨run', hrun⟩
      obtain ⟨name, hname, -⟩ := Reading.bind_eq_ok.mp hrun
      exact ⟨name, hname⟩
    · rintro ⟨name, hname⟩
      obtain ⟨j, hj⟩ := h k hk
      exact ⟨_, Reading.bind_eq_ok.mpr ⟨name, hname, Reading.bind_eq_ok.mpr ⟨j, hj, rfl⟩⟩⟩
  rw [← foldlM_ok_iff hstep (b := .start)]
  constructor
  · rintro ⟨outcome, ho⟩
    obtain ⟨run, hrun, -⟩ := Reading.bind_eq_ok.mp ho
    exact ⟨run, hrun⟩
  · rintro ⟨run, hrun⟩
    exact ⟨_, Reading.bind_eq_ok.mpr ⟨run, hrun, rfl⟩⟩

end SupplyGate
