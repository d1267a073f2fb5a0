import SupplyGate.Proofs.Gate.Endings
import SupplyGate.Proofs.Session.Evaluable

/-!
# Running twice

A run plans its findings from the batch, the policies, the context and the time; a second run right
after it plans the same ones. Filed again, they leave the store as it is, and so the second run reads
off the same records. Whatever a service was asked before, two runs in a row tell the same, and the
second changes no violation (`runs_repeat`).
-/

namespace SupplyGate

open Gate MemoryStore

/-- What a run tells of its dependencies, or the fault that it ends with. -/
def told (x : Gate EnforcementResult) (s : GateState) : Reading Report := (outcome x s).1.map reportOf

/-- The state that a run leaves. -/
def after (x : Gate EnforcementResult) (s : GateState) : GateState := (outcome x s).2

/-- A second run right after the first tells the same, and leaves the violations as they are. -/
structure Repeats (first second : Gate EnforcementResult) (s : GateState) : Prop where
  told : told second (after first s) = told first s
  violations : (after second (after first s)).violations = (after first s).violations

section Repeats

variable {m : MemoryStore Violation} {s : GateState} {others others' : Collaborators} {ds : List Dependency}
  {tenantId : Value} {policies : List Policy} {c : EvaluationContext} {stop : Nat → Bool}

/-- A run against policies that can be put in order is repeated: its findings are filed already. -/
theorem repeats_of_active (h : Recording m s) {active : List Policy}
    (hactive : Policy.active (policies.filter (·.tenantId.same tenantId)) = .ok active) :
    Repeats (evaluateAll others ds tenantId policies c fun n _ => stop n)
      (evaluateAll others' ds tenantId policies c fun n _ => stop n) s := by
  obtain ⟨r₁, m₁, s₁, ho₁, hran₁, executed₁, hreport₁⟩ := evaluateAll_ran others ds stop h rfl hactive
  have hnow : evaluationTime c s₁ = evaluationTime c s := by
    rw [evaluationTime, hran₁.clock, evaluationTime]
  obtain ⟨r₂, m₂, s₂, ho₂, hran₂, executed₂, hreport₂⟩ :=
    evaluateAll_ran others' ds stop hran₁.recording hnow hactive
  -- The clock has not moved, so both runs have the same plan, and the second files what is filed already.
  obtain ⟨events₁, hfiling₁⟩ := hran₁.filing
  obtain ⟨events₂, hfiling₂⟩ := hran₂.filing
  obtain rfl : m₂ = m₁ := hfiling₁.again h.filed hfiling₂
  obtain ⟨hexecuted₁, hr₁⟩ := hreport₁ m₂ (.refl m₂)
  obtain ⟨hexecuted₂, hr₂⟩ := hreport₂ m₂ (.refl m₂)
  refine ⟨?_, ?_⟩
  · simp only [told, after, ho₁, ho₂]
    rw [hr₁, hr₂]
    cases htell : (Plan.of active c (evaluationTime c s) stop ds.zipIdx).tell with
    | error f => rfl
    | ok _ => exact report_congr ((hexecuted₂ htell).trans (hexecuted₁ htell).symm) _ _
  · simp only [after, ho₁, ho₂]
    rw [hran₁.recording.violations, hran₂.recording.violations]

theorem repeats_of_unordered (h : Recording m s) {f : Fault}
    (hf : Policy.active (policies.filter (·.tenantId.same tenantId)) = .error f) :
    Repeats (evaluateAll others ds tenantId policies c fun n _ => stop n)
      (evaluateAll others' ds tenantId policies c fun n _ => stop n) s := by
  obtain ⟨m₁, s₁, ho₁, hran₁⟩ := evaluateAll_unordered others ds c stop h hf
  obtain ⟨m₂, s₂, ho₂, hran₂⟩ := evaluateAll_unordered others' ds c stop hran₁.recording hf
  obtain ⟨events, hfiling⟩ := hran₂.filing
  refine ⟨?_, ?_⟩
  · simp only [told, after, ho₁, ho₂]
  · simp only [after, ho₁, ho₂]
    rw [hran₁.recording.violations, hran₂.recording.violations]
    cases hfiling
    rfl

theorem repeats_evaluateAll (h : Recording m s) :
    Repeats (evaluateAll others ds tenantId policies c fun n _ => stop n)
      (evaluateAll others' ds tenantId policies c fun n _ => stop n) s := by
  cases hactive : Policy.active (policies.filter (·.tenantId.same tenantId)) with
  | error f => exact repeats_of_unordered h hactive
  | ok active => exact repeats_of_active h hactive

theorem repeats_evaluatePolicies (h : Recording m s) :
    Repeats (evaluatePolicies others ds tenantId c fun n _ => stop n)
      (evaluatePolicies others' ds tenantId c fun n _ => stop n) s := by
  cases hranked : rankedOf s tenantId with
  | error f =>
    have hfails : ∀ others : Collaborators, outcome (evaluatePolicies others ds tenantId c fun n _ => stop n) s =
        (.error f, s) := fun others => by rw [outcome_evaluatePolicies, hranked]
    refine ⟨?_, ?_⟩ <;> simp only [told, after, hfails]
  | ok ranked =>
    have hrun : ∀ (others : Collaborators) t, rankedOf t tenantId = .ok ranked →
        outcome (evaluatePolicies others ds tenantId c fun n _ => stop n) t =
          outcome (evaluateAll others ds tenantId ranked c fun n _ => stop n) t :=
      fun others t ht => by rw [outcome_evaluatePolicies, ht]
    have hfirst := hrun others s hranked
    have hsecond := hrun others' (after (evaluateAll others ds tenantId ranked c fun n _ => stop n) s)
      ((rankedOf_evaluateAll others ds ranked c _).trans hranked)
    obtain ⟨htold, hviolations⟩ : Repeats (evaluateAll others ds tenantId ranked c fun n _ => stop n)
      (evaluateAll others' ds tenantId ranked c fun n _ => stop n) s := repeats_evaluateAll h
    refine ⟨?_, ?_⟩
    · simp only [told, after] at htold hsecond ⊢
      rw [hfirst, hsecond, htold]
    · simp only [after] at hviolations hsecond ⊢
      rw [hfirst, hsecond, hviolations]

/-- **Running twice.** Wherever requests lead a service, two runs in a row over a batch, against given
policies or those of a tenant, tell the same evaluations, errors and summary, or end with the same
fault, whatever was executed besides, and the second leaves the violations as the first left them. -/
theorem runs_repeat {allowed : Request → Prop} (h : Reachable allowed s) :
    (∀ policies, Repeats (evaluateAll others ds tenantId policies c fun n _ => stop n)
      (evaluateAll others' ds tenantId policies c fun n _ => stop n) s) ∧
    Repeats (evaluatePolicies others ds tenantId c fun n _ => stop n)
      (evaluatePolicies others' ds tenantId c fun n _ => stop n) s := by
  obtain ⟨m, hm⟩ := h.recording
  exact ⟨fun _ => repeats_evaluateAll hm, repeats_evaluatePolicies hm⟩

end Repeats

section Sample

open Sample

theorem runs_repeat_created :
    Reachable Request.ofService created ∧
      Repeats (evaluatePolicies .none [dependency "lib"] "t" .empty fun _ _ => false)
        (evaluatePolicies .none [dependency "lib"] "t" .empty fun _ _ => false) created :=
  ⟨created_reachable, (runs_repeat created_reachable).2⟩

end Sample

end SupplyGate
