import SupplyGate.Policy.Evaluation
import SupplyGate.Policy.UpdateStrategy
import SupplyGate.Proofs.Policy.Documents
import SupplyGate.Proofs.Value.Overlay

/-!
# Documents of findings

What a run finds, does and counts is read again from its own document, as a policy is: up to what the rules in it do
not say. A breakdown by severity starts with all severities, and the members that no document names stand after them.
-/

namespace SupplyGate

instance : Scale.Faithful ViolationStatus := ⟨fun a => by cases a <;> rfl⟩
instance : Scale.Faithful EvaluationStatus := ⟨fun a => by cases a <;> rfl⟩
instance : Scale.Faithful ActionStatus := ⟨fun a => by cases a <;> rfl⟩
instance : Scale.Faithful ApprovalCondition := ⟨fun a => by cases a <;> rfl⟩
instance : Scale.Capital ApprovalCondition := ⟨fun a => by cases a <;> rfl⟩

/-! ## Violations -/

/-- The time of the evidence is fixed. -/
def Evidence.Documented (e : Evidence) : Prop := e.timestamp.Fixed

namespace Evidence

theorem documented_ofDoc {now : Timestamp} (hnow : now.Fixed) {doc : Value} {e : Evidence} (h : ofDoc now doc = .ok e) :
    e.Documented := by
  simp only [ofDoc, Reading.bind_eq_ok, Reading.pure_eq_ok] at h
  repeat obtain ⟨_, _, h⟩ := h
  exact Value.fixed_getD (Value.fixed_of_asTimestamp ‹_›) hnow

theorem ofDoc_toDoc {e : Evidence} (h : e.Documented) (now : Timestamp) : ofDoc now e.toDoc = .ok e := by
  simp [ofDoc, toDoc, List.lookup_cons, Reading.ok_bind, Value.asTimestamp_format h]

end Evidence

/-- The rule and the evidence are as documents give them. -/
structure ViolationDetails.Documented (d : ViolationDetails) : Prop where
  rule : d.rule.Documented
  evidence : ∀ e ∈ d.evidence, e.Documented

namespace ViolationDetails

/-- The details as their document gives them. -/
def asRead (d : ViolationDetails) : ViolationDetails :=
  { d with rule := d.rule.asRead, triggeredConditions := d.triggeredConditions.map Condition.asRead }

theorem toDoc_asRead (d : ViolationDetails) : d.asRead.toDoc = d.toDoc := by
  have hconditions : Value.ofRecords Condition.toDoc (d.triggeredConditions.map Condition.asRead) =
      .ofRecords Condition.toDoc d.triggeredConditions := by
    unfold Value.ofRecords
    rw [List.map_map]
    exact congrArg Value.list (List.map_congr_left fun c _ => c.toDoc_asRead)
  unfold toDoc asRead
  rw [hconditions, Rule.toDoc_asRead]

theorem documented_ofDoc {now : Timestamp} (hnow : now.Fixed) {doc : Value} {d : ViolationDetails} (h : ofDoc now doc = .ok d) :
    d.Documented := by
  simp only [ofDoc, Reading.bind_eq_ok, Reading.pure_eq_ok] at h
  repeat obtain ⟨_, _, h⟩ := h
  exact {
    rule := Rule.documented_ofDoc ‹_›
    evidence := forall_asRecords (fun _ _ => Evidence.documented_ofDoc hnow) ‹_› }

theorem ofDoc_toDoc {d : ViolationDetails} (h : d.Documented) (now : Timestamp) {doc : Value} (hdoc : d.toDoc = .ok doc) :
    ofDoc now doc = .ok d.asRead := by
  simp only [toDoc, Reading.bind_eq_ok, Reading.pure_eq_ok] at hdoc
  obtain ⟨rule, hrule, rfl⟩ := hdoc
  have hconditions := mapM_map fun c (_ : c ∈ d.triggeredConditions) => Condition.ofDoc_toDoc c
  have hevidence := mapM_docs fun e he => Evidence.ofDoc_toDoc (h.evidence e he) now
  simp [ofDoc, asRead, List.lookup_cons, Reading.ok_bind, Value.ofRecords, Rule.ofDoc_toDoc h.rule hrule, hconditions, hevidence]

end ViolationDetails

theorem ViolationContext.ofDoc_toDoc (c : ViolationContext) : ofDoc c.toDoc = .ok c := by
  simp [ofDoc, toDoc, List.lookup_cons, Reading.ok_bind]

/-- The violation has a severity, its times are fixed, and its parts are as documents give them. -/
structure Violation.Documented (v : Violation) : Prop where
  dependency : v.dependency.Documented
  severity : ∃ s, v.severity = .held s
  details : v.details.Documented
  firstDetected : v.firstDetected.Fixed
  lastSeen : v.lastSeen.Fixed
  resolvedAt : ∀ t ∈ v.resolvedAt, t.Fixed
  dueDate : ∀ t ∈ v.dueDate, t.Fixed

namespace Violation

/-- The violation as its document gives it. -/
def asRead (v : Violation) : Violation := { v with details := v.details.asRead }

theorem toDoc_asRead (v : Violation) : v.asRead.toDoc = v.toDoc := by
  unfold toDoc asRead
  dsimp only
  rw [ViolationDetails.toDoc_asRead]

theorem documented_ofDoc {now : Timestamp} (hnow : now.Fixed) {doc : Value} {v : Violation} (h : ofDoc now doc = .ok v) :
    v.Documented := by
  simp only [ofDoc, Reading.bind_eq_ok, Reading.pure_eq_ok] at h
  repeat obtain ⟨_, _, h⟩ := h
  exact {
    dependency := Dependency.documented_ofDoc ‹_›
    severity := ⟨_, rfl⟩
    details := ViolationDetails.documented_ofDoc hnow ‹_›
    firstDetected := Value.fixed_getD (Value.fixed_of_asTimestamp ‹_›) hnow
    lastSeen := Value.fixed_getD (Value.fixed_of_asTimestamp ‹_›) hnow
    resolvedAt := Value.fixed_of_asTimestamp ‹_›
    dueDate := Value.fixed_of_asTimestamp ‹_› }

theorem ofDoc_toDoc {v : Violation} (h : v.Documented) (now : Timestamp) {doc : Value} (hdoc : v.toDoc = .ok doc) :
    ofDoc now doc = .ok v.asRead := by
  obtain ⟨id, tenantId, policyId, ruleId, dependency, type, severity, message, details, context, status, firstDetected, lastSeen,
    resolvedAt, resolvedBy, resolution, assignedTo, dueDate, tags⟩ := v
  obtain ⟨hdependency, ⟨severity, rfl⟩, hdetails, hfirst, hlast, hresolved, hdue⟩ := h
  simp only [toDoc, Loose.part_held, Reading.ok_bind, Reading.bind_eq_ok, Reading.pure_eq_ok] at hdoc
  obtain ⟨detailsDoc, hdetailsDoc, rfl⟩ := hdoc
  have hdependencyRead := Dependency.ofDoc_toDoc hdependency
  have hdetailsRead := ViolationDetails.ofDoc_toDoc hdetails now hdetailsDoc
  have hfirstRead := Value.asTimestamp_format hfirst
  have hlastRead := Value.asTimestamp_format hlast
  have hresolvedRead := Value.asTimestamp_toDoc hresolved
  have hdueRead := Value.asTimestamp_toDoc hdue
  dsimp only at *
  simp [ofDoc, asRead, List.lookup_cons, Reading.ok_bind, hdependencyRead, hdetailsRead, hfirstRead, hlastRead, hresolvedRead, hdueRead,
    ViolationContext.ofDoc_toDoc]

end Violation

/-! ## Evaluations -/

/-- The findings and the exceptions are as documents give them, and the time of the evaluation is fixed. -/
structure Evaluation.Documented (e : Evaluation) : Prop where
  violations : ∀ v ∈ e.violations, v.Documented
  warnings : ∀ v ∈ e.warnings, v.Documented
  exceptions : ∀ x ∈ e.exceptions, x.Documented
  evaluatedAt : e.evaluatedAt.Fixed

namespace Evaluation

/-- The evaluation as its document gives it. -/
def asRead (e : Evaluation) : Evaluation :=
  { e with violations := e.violations.map Violation.asRead, warnings := e.warnings.map Violation.asRead }

theorem toDoc_asRead (e : Evaluation) : e.asRead.toDoc = e.toDoc := by
  have hfindings : ∀ vs : List Violation, (vs.map Violation.asRead).mapM Violation.toDoc = vs.mapM Violation.toDoc := fun vs => by
    rw [List.mapM_map]
    exact congrArg (vs.mapM ·) (funext Violation.toDoc_asRead)
  unfold toDoc asRead
  dsimp only
  rw [hfindings, hfindings]

theorem documented_ofDoc {now : Timestamp} (hnow : now.Fixed) {doc : Value} {e : Evaluation} (h : ofDoc now doc = .ok e) :
    e.Documented := by
  simp only [ofDoc, Reading.bind_eq_ok, Reading.pure_eq_ok] at h
  repeat obtain ⟨_, _, h⟩ := h
  exact {
    violations := forall_asRecords (fun _ _ => Violation.documented_ofDoc hnow) ‹_›
    warnings := forall_asRecords (fun _ _ => Violation.documented_ofDoc hnow) ‹_›
    exceptions := forall_asRecords (fun _ _ => PolicyException.documented_ofDoc hnow) ‹_›
    evaluatedAt := Value.fixed_getD (Value.fixed_of_asTimestamp ‹_›) hnow }

theorem ofDoc_toDoc {e : Evaluation} (h : e.Documented) (now : Timestamp) {doc : Value} (hdoc : e.toDoc = .ok doc) :
    ofDoc now doc = .ok e.asRead := by
  simp only [toDoc, Reading.bind_eq_ok, Reading.pure_eq_ok] at hdoc
  obtain ⟨violations, hviolations, warnings, hwarnings, rfl⟩ := hdoc
  have hviolationsRead := mapM_of_forall₂ hviolations fun v hv doc => Violation.ofDoc_toDoc (h.violations v hv) now
  have hwarningsRead := mapM_of_forall₂ hwarnings fun v hv doc => Violation.ofDoc_toDoc (h.warnings v hv) now
  have hexceptions := mapM_docs fun x hx => PolicyException.ofDoc_toDoc (h.exceptions x hx) now
  simp [ofDoc, asRead, List.lookup_cons, Reading.ok_bind, Value.ofRecords, hviolationsRead, hwarningsRead, hexceptions,
    Value.asTimestamp_format h.evaluatedAt]

end Evaluation

/-! ## Results of runs -/

/-- The time of the execution is fixed. -/
def ExecutedAction.Documented (a : ExecutedAction) : Prop := ∀ t ∈ a.executedAt, t.Fixed

namespace ExecutedAction

theorem documented_ofDoc {doc : Value} {a : ExecutedAction} (h : ofDoc doc = .ok a) : a.Documented := by
  simp only [ofDoc, Reading.bind_eq_ok, Reading.pure_eq_ok] at h
  repeat obtain ⟨_, _, h⟩ := h
  exact Value.fixed_of_asTimestamp ‹_›

theorem ofDoc_toDoc {a : ExecutedAction} (h : a.Documented) : ofDoc a.toDoc = .ok a := by
  simp [ofDoc, toDoc, List.lookup_cons, Reading.ok_bind, Value.asTimestamp_toDoc h]

end ExecutedAction

/-- The breakdown by severity starts with all severities. -/
def EnforcementSummary.Documented (s : EnforcementSummary) : Prop := Value.Covers noSeverities s.severityBreakdown

namespace EnforcementSummary

theorem apart_noSeverities : Value.Apart noSeverities := by
  unfold Value.Apart
  decide

theorem documented_ofDoc {doc : Value} {s : EnforcementSummary} (h : ofDoc doc = .ok s) : s.Documented := by
  simp only [ofDoc, Reading.bind_eq_ok, Reading.pure_eq_ok] at h
  repeat obtain ⟨_, _, h⟩ := h
  exact (Value.Covers.refl apart_noSeverities).overlay _

theorem ofDoc_toDoc {s : EnforcementSummary} (h : s.Documented) : ofDoc s.toDoc = .ok s := by
  have hbreakdown := h.overlay_eq (by decide)
  have hmap : ((Value.map s.severityBreakdown).orElse (.map [])).asOverlay = .ok s.severityBreakdown := by
    cases s.severityBreakdown <;> rfl
  simp [ofDoc, toDoc, List.lookup_cons, Reading.ok_bind, hmap, hbreakdown]

end EnforcementSummary

/-- The parts of the result are as documents give them, and its times are fixed. -/
structure EnforcementResult.Documented (r : EnforcementResult) : Prop where
  evaluations : ∀ e ∈ r.evaluations, e.Documented
  executedActions : ∀ a ∈ r.executedActions, a.Documented
  summary : r.summary.Documented
  startTime : ∀ t ∈ r.startTime, t.Fixed
  endTime : ∀ t ∈ r.endTime, t.Fixed

namespace EnforcementResult

/-- The result as its document gives it. -/
def asRead (r : EnforcementResult) : EnforcementResult := { r with evaluations := r.evaluations.map Evaluation.asRead }

theorem toDoc_asRead (r : EnforcementResult) : r.asRead.toDoc = r.toDoc := by
  have hevaluations : (r.evaluations.map Evaluation.asRead).mapM Evaluation.toDoc = r.evaluations.mapM Evaluation.toDoc := by
    rw [List.mapM_map]
    exact congrArg (r.evaluations.mapM ·) (funext Evaluation.toDoc_asRead)
  unfold toDoc asRead
  dsimp only
  rw [hevaluations]

theorem documented_ofDoc {now : Timestamp} (hnow : now.Fixed) {doc : Value} {r : EnforcementResult} (h : ofDoc now doc = .ok r) :
    r.Documented := by
  simp only [ofDoc, Reading.bind_eq_ok, Reading.pure_eq_ok] at h
  repeat obtain ⟨_, _, h⟩ := h
  exact {
    evaluations := forall_asRecords (fun _ _ => Evaluation.documented_ofDoc hnow) ‹_›
    executedActions := forall_asRecords (fun _ _ => ExecutedAction.documented_ofDoc) ‹_›
    summary := EnforcementSummary.documented_ofDoc ‹_›
    startTime := Value.fixed_of_asTimestamp ‹_›
    endTime := Value.fixed_of_asTimestamp ‹_› }

theorem ofDoc_toDoc {r : EnforcementResult} (h : r.Documented) (now : Timestamp) {doc : Value} (hdoc : r.toDoc = .ok doc) :
    ofDoc now doc = .ok r.asRead := by
  simp only [toDoc, Reading.bind_eq_ok, Reading.pure_eq_ok] at hdoc
  obtain ⟨evaluations, hevaluations, rfl⟩ := hdoc
  have hevaluationsRead := mapM_of_forall₂ hevaluations fun e he doc => Evaluation.ofDoc_toDoc (h.evaluations e he) now
  have hactions := mapM_docs fun a ha => ExecutedAction.ofDoc_toDoc (h.executedActions a ha)
  have hsummary : EnforcementSummary.ofDoc (r.summary.toDoc.orElse (.map [])) = .ok r.summary :=
    EnforcementSummary.ofDoc_toDoc h.summary
  simp [ofDoc, asRead, List.lookup_cons, Reading.ok_bind, Value.ofRecords, hevaluationsRead, hactions, hsummary,
    Value.asTimestamp_toDoc h.startTime, Value.asTimestamp_toDoc h.endTime]

end EnforcementResult

/-! ## Update strategies -/

theorem ApprovalRule.ofDoc_toDoc (r : ApprovalRule) : ofDoc r.toDoc = .ok r := by
  simp [ofDoc, toDoc, List.lookup_cons, Reading.ok_bind]

theorem UpdateStrategy.ofDoc_toDoc (s : UpdateStrategy) : ofDoc s.toDoc = .ok s := by
  have hrules := mapM_docs fun r (_ : r ∈ s.approvalRules) => ApprovalRule.ofDoc_toDoc r
  simp [ofDoc, toDoc, List.lookup_cons, Reading.ok_bind, Value.ofRecords, hrules]

end SupplyGate
