import SupplyGate.Proofs.Gate.Legible
import SupplyGate.Proofs.Sample
import SupplyGate.Proofs.Session.Serving

/-!
# When the policies of a tenant can be evaluated

Validation lets policies through that an evaluation cannot read: with an active exception that never
expires, a field of a condition that is no text, a type of a rule that is no key. Whatever a service was
asked before, a run over dated dependencies returns and skips none of them, however it is cancelled,
just when what validation says nothing about can be read, and the dependencies can be told
(`evaluatePolicies_unskipped_iff`).
-/

namespace SupplyGate

open Gate

/-- The stored policies of a tenant can be put in order, and what the evaluation of each dependency
reads of them beyond what validation promises can be read. -/
def Evaluable (s : GateState) (ds : List Dependency) (tenantId : Value) (c : EvaluationContext) : Prop :=
  ∃ stored ranked active, s.policies.ofTenant s.now tenantId = .ok stored ∧
    sortDescending (·.priority) stored = .ok ranked ∧ Policy.active ranked = .ok active ∧
    ∀ d ∈ ds, Legible d active c (evaluationTime c s)

section Evaluate

variable {s s' : GateState} {others : Collaborators} {ds : List Dependency} {tenantId : Value}
  {c : EvaluationContext}

theorem returns_policiesOf {ranked : List Policy} :
    Returns (policiesOf tenantId) s ranked s' ↔
      (∃ stored, s.policies.ofTenant s.now tenantId = .ok stored ∧
        sortDescending (·.priority) stored = .ok ranked) ∧ s' = s := by
  unfold policiesOf
  rw [returns_bind]
  simp only [Returns, outcome_ofTenant, liftM_eq_ofReading, outcome_ofReading, Prod.mk.injEq]
  constructor
  · rintro ⟨stored, t, ⟨hs, rfl⟩, hr, rfl⟩
    exact ⟨⟨stored, hs, hr⟩, rfl⟩
  · rintro ⟨⟨stored, hs, hr⟩, rfl⟩
    exact ⟨stored, _, ⟨hs, rfl⟩, hr, rfl⟩

/-- A run for a tenant is a run against its policies as ranked. -/
theorem returns_evaluatePolicies {stored ranked : List Policy} {cancel : Cancellation} {r : EnforcementResult}
    (hstored : s.policies.ofTenant s.now tenantId = .ok stored)
    (hranked : sortDescending (·.priority) stored = .ok ranked) :
    Returns (evaluatePolicies others ds tenantId c cancel) s r s' ↔
      Returns (evaluateAll others ds tenantId ranked c cancel) s r s' := by
  unfold evaluatePolicies
  rw [returns_bind]
  constructor
  · rintro ⟨ranked', t, hp, hr⟩
    obtain ⟨⟨stored', hstored', hranked'⟩, rfl⟩ := returns_policiesOf.mp hp
    obtain rfl : stored = stored' := Except.ok.inj (hstored.symm.trans hstored')
    obtain rfl : ranked = ranked' := Except.ok.inj (hranked.symm.trans hranked')
    exact hr
  · intro hr
    exact ⟨ranked, s, returns_policiesOf.mpr ⟨⟨stored, hstored, hranked⟩, rfl⟩, hr⟩

/-- A run against ranked policies skips nothing just when those that take effect can be put in order and
what they need can be read. -/
theorem Serving.evaluateAll_iff {stored ranked : List Policy} (hs : Serving s) (hds : ∀ d ∈ ds, d.Dated)
    (hstored : s.policies.ofTenant s.now tenantId = .ok stored)
    (hranked : sortDescending (·.priority) stored = .ok ranked) :
    (∀ cancel, ∃ r s', Returns (evaluateAll others ds tenantId ranked c cancel) s r s' ∧ r.skipped = .int 0) ↔
      ∃ active, Policy.active ranked = .ok active ∧ ∀ d ∈ ds, Legible d active c (evaluationTime c s) := by
  obtain ⟨haccepted, hfilter⟩ := Accepting.ranked hs.policies hstored hranked
  rw [evaluateAll_unskipped_iff haccepted hs.toOrderly, hfilter]
  refine exists_congr fun active => and_congr_right fun hactive => forall₂_congr fun d hd => ?_
  exact ready_iff_legible (hds d hd) fun p hp => (haccepted p (mem_of_active hactive p hp)).checked

theorem Serving.unskipped_iff (hs : Serving s) (hds : ∀ d ∈ ds, d.Dated) :
    (∀ cancel, ∃ r s', Returns (evaluatePolicies others ds tenantId c cancel) s r s' ∧ r.skipped = .int 0) ↔
      Evaluable s ds tenantId c := by
  constructor
  · intro h
    obtain ⟨_, _, hr, -⟩ := h fun _ _ => false
    obtain ⟨ranked, _, hp, -⟩ := returns_bind.mp hr
    obtain ⟨⟨stored, hstored, hranked⟩, -⟩ := returns_policiesOf.mp hp
    simp only [returns_evaluatePolicies hstored hranked] at h
    obtain ⟨active, hactive, hlegible⟩ := (hs.evaluateAll_iff hds hstored hranked).mp h
    exact ⟨stored, ranked, active, hstored, hranked, hactive, hlegible⟩
  · rintro ⟨stored, ranked, active, hstored, hranked, hactive, hlegible⟩
    simp only [returns_evaluatePolicies hstored hranked]
    exact (hs.evaluateAll_iff hds hstored hranked).mpr ⟨active, hactive, hlegible⟩

/-- Sound policies with comparable priorities are evaluable on dependencies that can be told. -/
theorem evaluable_of_sound {stored : List Policy} (hstored : s.policies.ofTenant s.now tenantId = .ok stored)
    (hp : ∀ p ∈ stored, p.Sound) (hc : Comparable (stored.map (·.priority)))
    (hds : ∀ d ∈ ds, d.Tellable (evaluationTime c s)) : Evaluable s ds tenantId c := by
  obtain ⟨ranked, hranked⟩ := sortDescending_ok hc
  have hperm := sortDescending_perm hranked
  have hsound : ∀ p ∈ ranked, p.Sound := fun p hmem => hp p (hperm.mem_iff.mp hmem)
  have hcomparable : Comparable (ranked.map (·.priority)) := fun a ha b hb =>
    hc a ((hperm.map _).mem_iff.mp ha) b ((hperm.map _).mem_iff.mp hb)
  obtain ⟨active, hactive⟩ := Policy.active_eq_ok (fun p hmem => (hsound p hmem).enforcement) hcomparable
  have hsub := mem_of_active hactive
  refine ⟨stored, ranked, active, hstored, hranked, hactive, fun d hd => ?_⟩
  refine legible_of_sound (fun p hmem => hsound p (hsub p hmem)) (fun a ha b hb => ?_) c (hds d hd)
  have hmap := List.map_subset (·.priority) hsub
  exact hcomparable a (hmap ha) b (hmap hb)

/-- **When accepted policies evaluate.** Wherever requests lead a service, every run over dated
dependencies returns and skips none of them just when the policies of the tenant can be put in order,
what validation says nothing about can be read, and what is told can be written: scopes, exceptions up to
the first in force, the fields of conditions, types, metadata and names of rules that fire, and of the
dependencies the names and the ages. -/
theorem evaluatePolicies_unskipped_iff (h : Reachable Request.ofService s) (hds : ∀ d ∈ ds, d.Dated) :
    (∀ cancel, ∃ r s', Returns (evaluatePolicies others ds tenantId c cancel) s r s' ∧ r.skipped = .int 0) ↔
      Evaluable s ds tenantId c :=
  h.serving.unskipped_iff hds

end Evaluate

section Sample

open Sample

/-- A policy that validation lets through and that can be evaluated. -/
def plain : Policy := policy "t" "p" [rule "r" (absent "x")] []

/-- An exception from the rule for a package, which is active and never expires. -/
def endless : PolicyException where
  id := "e"
  ruleId := "r"
  dependency := "lib"
  reason := ""
  justification := ""
  approvedBy := ""
  approvedAt := moment
  expiresAt := none
  conditions := []
  reviewSchedule := none
  status := .active

/-- The service after it was asked to create the policy. -/
def created : GateState := (outcome (Request.createPolicy "t" (.record plain) "u").run gate).2

/-- The service after it was asked for the exception, too. -/
def excepted : GateState := (outcome (Request.addException "p" endless).run created).2

theorem created_reachable : Reachable Request.ofService created := .request (.start moment {}) trivial

theorem excepted_reachable : Reachable Request.ofService excepted := .request created_reachable trivial

theorem created_stored : created.policies.ofTenant created.now "t" = .ok [{ plain with createdBy := "u" }] := rfl

theorem evaluatePolicies_unskipped_iff_plain :
    Reachable Request.ofService created ∧ (∀ d ∈ [dependency "lib"], d.Dated) ∧
      ∀ cancel, ∃ r s', Returns (evaluatePolicies .none [dependency "lib"] "t" .empty cancel) created r s' ∧
        r.skipped = .int 0 := by
  have hdated : ∀ d ∈ [dependency "lib"], d.Dated := by simp [Dependency.Dated, dependency]
  refine ⟨created_reachable, hdated, (evaluatePolicies_unskipped_iff created_reachable hdated).mpr ?_⟩
  refine evaluable_of_sound created_stored ?_ ?_ ?_
  · simp only [List.mem_singleton, forall_eq]
    refine ⟨⟨_, rfl⟩, ⟨_, rfl⟩, ⟨[], rfl, by simp⟩, ?_, ?_, ?_, ?_, ?_⟩ <;> simp [plain, policy, rule, absent]
  · simp only [List.map_cons, List.map_nil, Comparable, List.mem_singleton, forall_eq]
    rfl
  · simp only [List.mem_singleton, forall_eq]
    exact ⟨rfl, fun h => absurd rfl h⟩

/-- After an exception without expiry was granted, the dependency is skipped. -/
theorem endless_exception_skips :
    ∃ s, Reachable Request.ofService s ∧ (dependency "lib").Dated ∧
      ∃ r s', Returns (evaluatePolicies .none [dependency "lib"] "t" .empty fun _ _ => false) s r s' ∧
        r.skipped ≠ .int 0 := by
  refine ⟨excepted, excepted_reachable, .inl rfl, ?_⟩
  let waived : Policy := { plain with createdBy := "u", exceptions := .held [.held endless] }
  have hstored : excepted.policies.ofTenant excepted.now "t" = .ok [waived] := rfl
  have hranked : sortDescending (·.priority) [waived] = .ok [waived] := sortDescending_singleton ..
  obtain ⟨haccepted, hfilter⟩ := Accepting.ranked excepted_reachable.serving.policies hstored hranked
  have hactive : Policy.active ([waived].filter (·.tenantId.same "t")) = .ok [waived] := by
    rw [hfilter]
    exact Policy.active_singleton rfl
  have hunready : ¬ Ready (dependency "lib") [waived] .empty (evaluationTime .empty excepted) := by
    rintro ⟨data, order, -, horder, h⟩
    rw [Policy.active_singleton rfl, Except.ok.injEq] at horder
    subst horder
    obtain ⟨o, ho⟩ := ((h waived List.mem_cons_self).rules rfl (rule "r" (absent "x")) List.mem_cons_self rfl).exception
    cases ho
  have hnames : ∀ d ∈ [dependency "lib"], d.name.isWritable = true := by simp [dependency]
  obtain ⟨r, s', hr, hskipped⟩ := evaluateAll_skips haccepted hactive excepted_reachable.serving.toOrderly
    hnames List.mem_cons_self hunready
  exact ⟨r, s', (returns_evaluatePolicies hstored hranked).mpr hr, hskipped⟩

end Sample

end SupplyGate
