import SupplyGate.Proofs.Session.Invariants
import SupplyGate.Proofs.Session.TwinPolicies

/-!
# Violations of twins

From twins, violations are moved from status to status, evaluated, looked up and counted alike.
-/

namespace SupplyGate.Gate

open Mirrored

/-! ## Triage -/

/-- A change of violations that rows can hold, and that does the same to a violation and to what its document gives. -/
structure Marks (change : Violation → Violation) : Prop where
  kept {v : Violation} (h : v.Kept) : (change v).Kept
  id (v : Violation) : (change v).id = v.id
  asRead (v : Violation) : change v.asRead = (change v).asRead

section Triage

variable {violationId actor : Value}

theorem agree_getViolation (hid : violationId.IsText) :
    Agree Reads (getViolation violationId) (getViolation violationId) := by
  refine (agree_find (fun _ _ h => h.violations) hid).bind fun o o' h => ?_
  obtain ⟨rfl, hkept⟩ := h
  cases o with
  | none => exact .throw
  | some v => exact .pure ⟨rfl, (hkept v rfl).1⟩

/-- A violation on record is put back alike. -/
theorem alike_putBack {s t : GateState} (hst : Twins s t) {id : Value} {v w : Violation}
    (hv : s.violations.get s.now id = .ok (some v)) (hid : w.id = v.id) (hw : w.Kept) :
    Alike (fun _ _ => True) (outcome (keep .violations w) s) (outcome (keep .violations w.asRead) t) := by
  obtain ⟨s', t', hs, ht, h⟩ := hst.violations.put hw (same_asRead w)
  rw [outcome_keep, outcome_keep, show (Shelf.violations.read s).put w = .ok s' from hs,
    show (Shelf.violations.read t).put w.asRead = .ok t' from ht]
  exact .returned trivial { hst with violations := h, numbered := hst.numbered.putBack hv hid hs }

theorem agree_storeMoved {target : ViolationStatus} {change : Violation → Violation} (hid : violationId.IsText)
    (hchange : Marks change) : Agree (fun p p' => Reads p.1 p'.1 ∧ Reads p.2 p'.2)
      (storeMoved violationId target change) (storeMoved violationId target change) := by
  intro s t hst
  obtain ⟨i, rfl⟩ := hid
  obtain ⟨o, hs, ht, hkept⟩ := hst.violations.get s.now i
  unfold storeMoved getViolation
  rw [bind_assoc, outcome_bind, outcome_bind, outcome_find, outcome_find, hst.now,
    show (Shelf.violations.read s).get s.now (.str i) = .ok o from hs,
    show (Shelf.violations.read t).get s.now (.str i) = .ok (o.map Violation.asRead) from ht]
  cases o with
  | none => exact .refused hst
  | some v =>
    have hmoved : Violation.Kept (change { v with status := target }) := hchange.kept { (hkept v rfl).1 with }
    have hread : change { v.asRead with status := target } = (change { v with status := target }).asRead :=
      hchange.asRead { v with status := target }
    have hgo : Agree (fun p p' => Reads p.1 p'.1 ∧ Reads p.2 p'.2) (pure (v, change { v with status := target }))
        (pure (v.asRead, (change { v with status := target }).asRead)) := .pure ⟨⟨rfl, (hkept v rfl).1⟩, rfl, hmoved⟩
    change Alike _
      (outcome (if !v.status.mayMove target then throw _ >>= _ else keep .violations (change { v with status := target }) >>= _) s)
      (outcome (if !v.status.mayMove target then throw _ >>= _ else keep .violations (change { v.asRead with status := target }) >>= _) t)
    rw [hread]
    split
    · exact .refused hst
    · exact (alike_putBack hst hs (hchange.id { v with status := target }) hmoved).bind fun _ _ _ => hgo

/-- A violation is moved alike. -/
theorem agree_move {target : ViolationStatus} {change : Violation → Violation} (hid : violationId.IsText)
    (hchange : Marks change) : Agree Reads (move violationId target actor change) (move violationId target actor change) := by
  refine (agree_storeMoved hid hchange).bind fun p p' h => ?_
  obtain ⟨v, moved⟩ := p
  obtain ⟨v', moved'⟩ := p'
  obtain ⟨⟨hv, -⟩, hmoved⟩ := h
  obtain rfl : v' = v.asRead := hv
  exact (agree_logValues _).bind fun _ _ _ => (agree_publish rfl).bind fun _ _ _ => .pure hmoved

/-- What is noted when a violation is settled. -/
theorem marks_settled {resolution resolvedBy : Value} (hresolution : resolution.Storable) (hby : resolvedBy.Storable)
    {now : Timestamp} (hnow : now.Fixed) :
    Marks fun v => { v with resolution, resolvedBy, resolvedAt := some now } where
  kept h := { h with
    resolution := hresolution
    resolvedBy := hby
    resolvedAt := fun _ ht => Option.some.inj ht ▸ hnow }
  id _ := rfl
  asRead _ := rfl

theorem agree_resolve {resolution : Value} (hid : violationId.IsText) (hresolution : resolution.Storable)
    (hby : actor.Storable) : Agree Reads (resolve violationId resolution actor) (resolve violationId resolution actor) := by
  unfold resolve
  refine agree_clock.bind fun now now' h => ?_
  obtain ⟨rfl, hnow⟩ := h
  refine (agree_move hid (marks_settled hresolution hby hnow)).bind fun v v' h => ?_
  have htold : (Event.violationResolved v').told = (Event.violationResolved v).told := by
    obtain ⟨rfl, -⟩ := h
    exact congrArg (fun p => ("violationResolved", Payload.fields [("violation", p)])) (Event.ofViolation_asRead v)
  exact (agree_publish htold).bind fun _ _ _ => .pure h

theorem agree_acknowledge {assignedTo : Value} (hid : violationId.IsText) (hassigned : assignedTo.Storable)
    (hby : actor.Storable) : Agree Reads (acknowledge violationId actor assignedTo) (acknowledge violationId actor assignedTo) :=
  agree_move hid {
    kept := fun h => { h with assignedTo := hassigned.orElse hby }
    id := fun _ => rfl
    asRead := fun _ => rfl }

theorem agree_suppress {reason : Value} (hid : violationId.IsText) (hreason : reason.Storable) :
    Agree Reads (suppress violationId reason actor) (suppress violationId reason actor) :=
  agree_move hid {
    kept := fun h => { h with resolution := hreason }
    id := fun _ => rfl
    asRead := fun _ => rfl }

theorem agree_markFalsePositive {reason : Value} (hid : violationId.IsText) (hreason : reason.Storable) (hby : actor.Storable) :
    Agree Reads (markFalsePositive violationId reason actor) (markFalsePositive violationId reason actor) := by
  unfold markFalsePositive
  refine agree_clock.bind fun now now' h => ?_
  obtain ⟨rfl, hnow⟩ := h
  exact agree_move hid (marks_settled hreason hby hnow)

end Triage

/-! ## Looking up -/

section Queries

variable {tenantId : Value}

/-- The violations of a tenant come in the same order. -/
theorem agree_violationsOf (htenant : tenantId.IsText) (status : Option ViolationStatus) :
    Agree ReadsAll (violationsOf tenantId status) (violationsOf tenantId status) := by
  unfold violationsOf
  refine (agree_ofTenant (fun _ _ h => h.violations) htenant).bind fun vs vs' h => ?_
  obtain ⟨rfl, hkept⟩ := h
  have hstatus : withStatus status (vs.map Violation.asRead) = (withStatus status vs).map Violation.asRead := by
    cases status with
    | none => rfl
    | some status => exact List.filter_map
  have hsub : ∀ v ∈ withStatus status vs, v ∈ vs := by
    cases status with
    | none => exact fun v hv => hv
    | some status => exact fun v hv => List.mem_of_mem_filter hv
  rw [show withStatus status (vs.map asRead) = _ from hstatus, sortAscending_map (f := Violation.asRead) fun _ => rfl]
  refine .ofReading_map fun sorted hsorted => ⟨rfl, fun v hv => hkept v (hsub v ?_)⟩
  exact (sortAscending_perm hsorted).mem_iff.mp hv

theorem violationCounts_asRead (vs : List Violation) : violationCounts (vs.map Violation.asRead) = violationCounts vs := by
  unfold violationCounts
  rw [List.foldlM_map]
  rfl

theorem agree_policyMetrics (htenant : tenantId.IsText) :
    Agree (Both fun _ => True) (policyMetrics tenantId) (policyMetrics tenantId) := by
  unfold policyMetrics
  refine (agree_ofTenant twinned_policies.mirrored htenant).bind fun ps ps' h => ?_
  obtain ⟨rfl, -⟩ := h
  refine (agree_ofTenant (fun _ _ h => h.violations) htenant).bind fun vs vs' h => ?_
  obtain ⟨rfl, -⟩ := h
  rw [show violationCounts (vs.map asRead) = _ from violationCounts_asRead vs]
  refine (Agree.ofReading (F := fun _ => True) fun _ _ => trivial).bind fun counts counts' h => ?_
  obtain ⟨rfl, -⟩ := h
  refine (agree_ofTenant twinned_evaluations.mirrored htenant).bind fun runs runs' h => .pure ⟨?_, trivial⟩
  obtain ⟨rfl, -⟩ := h
  have hrules : ((ps.map asRead).flatMap (·.rules)).length = (ps.flatMap (·.rules)).length := by
    simp [List.length_flatMap, asRead, Policy.asRead, Function.comp_def]
  simp only [List.length_map, List.countP_map, hrules]
  rfl

end Queries

/-! ## Evaluating -/

section Evaluating

variable {tenantId : Value} {others : Collaborators} {ds : List Dependency} {c : EvaluationContext}
  {stop : Nat → List (String × Payload) → Bool}

theorem agree_evaluatePolicies (hothers : others.Storable) (hds : ∀ d ∈ ds, d.Documented ∧ d.toDoc.Storable) (hc : c.Storable)
    (htenant : tenantId.IsText) :
    Agree Reads (evaluatePolicies others ds tenantId c (.told stop)) (evaluatePolicies others ds tenantId c (.told stop)) := by
  unfold evaluatePolicies
  refine (agree_policiesOf htenant).bind fun ps ps' h => ?_
  obtain ⟨rfl, hps⟩ := h
  exact agree_evaluateAll hothers hds hc hps htenant

theorem agree_evaluationResult {evaluationId : Value} (hid : evaluationId.IsText) :
    Agree (fun o o' => o' = o.map asRead ∧ ∀ r, o = some r → r.Kept) (evaluationResult evaluationId)
      (evaluationResult evaluationId) :=
  (agree_find twinned_evaluations.mirrored hid).mono fun _ _ h => ⟨h.1, fun r hr => (h.2 r hr).1⟩

theorem agree_setStrategy {strategy : UpdateStrategy} (h : strategy.Kept) :
    Agree (fun _ _ => True) (setStrategy strategy) (setStrategy strategy) :=
  agree_keep twinned_strategies h (.refl strategy)

end Evaluating

end SupplyGate.Gate
