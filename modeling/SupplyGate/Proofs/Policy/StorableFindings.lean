import SupplyGate.Policy.Finding
import SupplyGate.Proofs.Policy.FindingDocuments
import SupplyGate.Proofs.Policy.Storable

/-!
# Findings that rows can hold

What a run finds on dependencies that rows can hold, by policies that rows can hold, can be held by rows: the values
that conditions look at are values of these, and a timestamp among them is kept as its text.
-/

namespace SupplyGate

/-! ## Violations -/

/-- The details are as documents give them, and a row can hold them. -/
structure ViolationDetails.Kept (d : ViolationDetails) : Prop where
  rule : d.rule.Kept
  triggered : ∀ c ∈ d.triggeredConditions, c.toDoc.Storable
  actualValues : (Value.map d.actualValues).Storable
  evidence : ∀ e ∈ d.evidence, e.Documented ∧ e.toDoc.Storable
  impact : d.impact.Storable
  recommendation : d.recommendation.Storable

/-- Apart from its id, the violation is as documents give it, and a row can hold it. -/
structure Violation.Storable (v : Violation) : Prop where
  tenantId : ∃ s, v.tenantId = .str s
  policyId : ∃ s, v.policyId = .str s
  ruleId : v.ruleId.Storable
  dependency : v.dependency.Documented ∧ v.dependency.toDoc.Storable
  type : v.type.Storable
  severity : ∃ s, v.severity = .held s
  message : v.message.Storable
  details : v.details.Kept
  context : v.context.toDoc.Storable
  firstDetected : v.firstDetected.Fixed
  lastSeen : v.lastSeen.Fixed
  resolvedAt : ∀ t ∈ v.resolvedAt, t.Fixed
  resolvedBy : v.resolvedBy.Storable
  resolution : v.resolution.Storable
  assignedTo : v.assignedTo.Storable
  dueDate : ∀ t ∈ v.dueDate, t.Fixed
  tags : ∀ tag ∈ v.tags, tag.Storable

/-- The violation has an id that is a text, is as documents give it, and a row can hold it. -/
structure Violation.Kept (v : Violation) : Prop extends v.Storable where
  id : ∃ s, v.id = .str s

theorem ViolationDetails.Kept.writes {d : ViolationDetails} (h : d.Kept) : d.toDoc.Writes := by
  obtain ⟨rule, hrule, hstorable⟩ := h.rule.writes
  simp only [toDoc, hrule, Reading.ok_bind]
  refine ⟨_, rfl, ?_⟩
  simp only [Value.storable_fields, List.forall_mem_cons]
  exact ⟨by simp [List.nodup_cons], hstorable, Value.storable_ofRecords.mpr h.triggered, h.actualValues,
    Value.storable_ofRecords.mpr fun e he => (h.evidence e he).2, h.impact, h.recommendation, by simp⟩

namespace Violation

variable {v : Violation}

theorem Storable.documented (h : v.Storable) : v.Documented where
  dependency := h.dependency.1
  severity := h.severity
  details := ⟨h.details.rule.documented, fun e he => (h.details.evidence e he).1⟩
  firstDetected := h.firstDetected
  lastSeen := h.lastSeen
  resolvedAt := h.resolvedAt
  dueDate := h.dueDate

theorem Kept.writes (h : v.Kept) : v.toDoc.Writes := by
  obtain ⟨details, hdetails, hstorable⟩ := h.details.writes
  obtain ⟨severity, hseverity⟩ := h.severity
  obtain ⟨id, hid⟩ := h.id
  obtain ⟨tenantId, htenant⟩ := h.tenantId
  obtain ⟨policyId, hpolicy⟩ := h.policyId
  simp only [toDoc, hdetails, hseverity, Loose.part_held, Reading.ok_bind]
  refine ⟨_, rfl, ?_⟩
  simp only [Value.storable_fields, List.forall_mem_cons]
  exact ⟨by simp [List.nodup_cons], by simp [hid], by simp [htenant], by simp [hpolicy], h.ruleId, h.dependency.2, h.type, by simp,
    h.message, hstorable, h.context, by simp, .str _, .str _, by simp, h.resolvedBy, h.resolution, h.assignedTo, by simp,
    Value.storable_list.mpr h.tags, by simp⟩

/-- A violation that is detected again is kept as before, with what was found now. -/
theorem Kept.seenAgain {found old : Violation} (h : found.Storable) (hold : old.Kept) {now : Timestamp} (hnow : now.Fixed) :
    Kept (Finding.seenAgain now found old) := by
  have hseen : Kept { old with
      lastSeen := now
      message := found.message
      details := found.details
      context := found.context } :=
    { hold with lastSeen := hnow, message := h.message, details := h.details, context := h.context }
  unfold Finding.seenAgain
  split
  · exact { hseen with resolution := .null, resolvedBy := .null, resolvedAt := fun _ h => nomatch h }
  · exact hseen

end Violation

/-! ## What conditions look at -/

/-- What a context says can be held by rows, and its time is fixed. -/
structure EvaluationContext.Storable (c : EvaluationContext) : Prop where
  place : c.toDoc.Storable
  cves : ∀ e ∈ c.vulnerabilities, ∀ v ∈ e.2, v.cve.Storable
  scores : ∀ e ∈ c.risks, e.2.score.Storable
  now : ∀ t ∈ c.now, t.Fixed

/-- The values that conditions ask for can be held by rows, once they are written as evidence keeps them. -/
def EvaluationData.Storable (data : EvaluationData) : Prop :=
  ∀ name, (ConditionOutcome.plain (Field.resolve Field.standard name data)).Storable

namespace Field

theorem storable_follow {v : Value} (h : v.Storable) (path : List String) : (follow v path).Storable := by
  induction path generalizing v with
  | nil => exact h
  | cons part path ih =>
    cases v with
    | map entries =>
      refine ih ?_
      cases hfound : Value.find? part entries with
      | none => exact .null
      | some w => exact Value.storable_findEntry h hfound
    | _ => exact .null

theorem storable_plain {v : Value} (h : v.Storable) : (ConditionOutcome.plain v).Storable := by
  unfold ConditionOutcome.plain
  split
  · exact .str _
  · exact h

/-- The data of a dependency are the dependency and what the context knows of it. -/
theorem of_eq_ok {d : Dependency} {c : EvaluationContext} {now : Timestamp} {data : EvaluationData}
    (h : EvaluationData.of d c now = .ok data) : data.dependency = d ∧ data.context = c ∧
      data.vulnerabilities = c.vulnerabilitiesOf d ∧ data.risk = c.riskOf d := by
  obtain ⟨days, -, h⟩ := Reading.bind_eq_ok.mp h
  obtain ⟨_, -, h⟩ := Reading.bind_eq_ok.mp h
  obtain rfl := Reading.pure_eq_ok.mp h
  exact ⟨rfl, rfl, rfl, rfl⟩

section

variable {d : Dependency} {c : EvaluationContext} {now : Timestamp} {data : EvaluationData}

/-- A row can hold what is known of the risk of a dependency. -/
theorem storable_riskOf (hc : c.Storable) : (((c.riskOf d).map KnownRisk.score).getD Value.null).Storable := by
  cases hrisk : c.riskOf d with
  | none => exact .null
  | some k => exact hc.scores _ (Text.mem_of_lookup hrisk)

/-- A row can hold the CVE numbers of the vulnerabilities of a dependency. -/
theorem storable_cves (hc : c.Storable) : (Value.list (((c.vulnerabilitiesOf d).map (·.cve)).filter (·.truthy))).Storable := by
  refine Value.storable_list.mpr fun v hv => ?_
  obtain ⟨w, hw, rfl⟩ := List.mem_map.mp (List.mem_of_mem_filter hv)
  unfold EvaluationContext.vulnerabilitiesOf at hw
  cases hfound : c.vulnerabilities.lookup d.ident with
  | none =>
    rw [hfound] at hw
    cases hw
  | some ws =>
    rw [hfound] at hw
    exact hc.cves _ (Text.mem_of_lookup hfound) w hw

/-- A row can hold what the standard fields say of a dependency, and what its metadata say. -/
theorem storable_data (hd : d.Documented) (hdoc : d.toDoc.Storable) (hc : c.Storable) (h : EvaluationData.of d c now = .ok data) :
    data.Storable := by
  obtain ⟨hdependency, hcontext, hvulnerabilities, hrisk⟩ := of_eq_ok h
  have hparts := hdoc
  simp only [Dependency.toDoc, Value.storable_fields, List.forall_mem_cons] at hparts
  obtain ⟨-, hname, hversion, hecosystem, -, -, hlicenses, -, hfile, hdescription, hrepository, hmaintainers, hdownloads, hmetadata,
    -⟩ := hparts
  have hplace := hc.place
  simp only [EvaluationContext.toDoc, Value.storable_fields, List.forall_mem_cons] at hplace
  obtain ⟨-, hproject, henvironment, -⟩ := hplace
  have hlicense : (d.licenses.headD .null).Storable := by
    cases hl : d.licenses with
    | nil => exact .null
    | cons l ls => exact Value.storable_list.mp hlicenses l (hl ▸ List.mem_cons_self)
  have hupdate : (ConditionOutcome.plain d.lastUpdate).Storable := by
    rcases hd with hnull | ⟨t, -, htime⟩
    · rw [hnull]
      exact .null
    · rw [htime]
      exact .str _
  have hdays : (ofInt? data.daysSinceUpdate).Storable := by
    cases data.daysSinceUpdate with
    | none => exact .null
    | some n => exact .int n
  have hworst : (worstSeverity data).Storable := by
    unfold worstSeverity
    split
    · exact .str _
    · exact .null
  have hseverities : (severities data).Storable := Value.storable_texts _
  have hscore : (((greatest ((c.vulnerabilitiesOf d).filterMap (·.cvssScore))).map Value.float).getD .null).Storable := by
    cases greatest ((c.vulnerabilitiesOf d).filterMap (·.cvssScore)) with
    | none => exact .null
    | some x => exact .float x
  have hlevel : (((c.riskOf d).map fun r => Scale.value r.level).getD .null).Storable := by
    cases c.riskOf d with
    | none => exact .null
    | some k => exact Value.storable_text _
  have hfields : ∀ e ∈ standard, (ConditionOutcome.plain (e.2 data)).Storable := by
    have hriskScore := storable_riskOf (d := d) hc
    have hcves := storable_cves (d := d) hc
    simp only [standard, List.forall_mem_cons, hdependency, hcontext, hvulnerabilities, hrisk]
    and_intros
    -- a value of the dependency or of the context, or one that is made up of texts and numbers
    all_goals first | exact hupdate | exact storable_plain ‹_› | exact storable_plain (by simp) | simp
  intro name
  unfold resolve
  split
  · next reader hreader => exact hfields _ (Text.mem_of_lookup hreader)
  · split
    · rw [hdependency]
      exact storable_plain (storable_follow hmetadata _)
    · exact .null

end

end Field

/-! ## Findings -/

namespace ConditionOutcome

/-- What has been kept of some conditions: some of them, and values that rows can hold. -/
structure Running.Kept (conditions : List Condition) (run : Running) : Prop where
  holding : ∀ c ∈ run.holding, c ∈ conditions
  actualValues : (Value.map run.actualValues).Storable

theorem advance_kept {data : EvaluationData} (hdata : data.Storable) {conditions : List Condition} {c : Condition}
    (hc : c ∈ conditions) {run next : Running} (h : run.Kept conditions) (hnext : advance Field.standard data run c = .ok next) :
    next.Kept conditions := by
  simp only [advance, Reading.bind_eq_ok, Reading.pure_eq_ok] at hnext
  obtain ⟨name, -, join, -, rfl⟩ := hnext
  refine ⟨fun c' hc' => ?_, Value.storable_insert h.actualValues name (hdata name)⟩
  dsimp only at hc'
  split at hc'
  · rcases List.mem_append.mp hc' with hc' | hc'
    · exact h.holding c' hc'
    · exact List.mem_singleton.mp hc' ▸ hc
  · exact h.holding c' hc'

/-- What is kept of the conditions of a rule are some of them, and values that a row can hold. -/
theorem storable_of {data : EvaluationData} (hdata : data.Storable) {conditions : List Condition} {outcome : ConditionOutcome}
    (h : of Field.standard data conditions = .ok outcome) :
    (∀ c ∈ outcome.holding, c ∈ conditions) ∧ (Value.map outcome.actualValues).Storable := by
  simp only [of, Reading.bind_eq_ok, Reading.pure_eq_ok] at h
  obtain ⟨run, hfold, rfl⟩ := h
  have hstart : Running.start.Kept conditions := ⟨by simp [Running.start], by simp [Running.start, Value.storable_map]⟩
  obtain ⟨hholding, hvalues⟩ := foldlM_keeps (fun c hc _ _ => advance_kept hdata hc) hstart hfold
  exact ⟨hholding, hvalues⟩

end ConditionOutcome

namespace Finding

/-- Rows can hold the evidence for a condition that they can hold. -/
theorem storable_evidenceOf {actualValues : List (Scalar × Value)} (hvalues : (Value.map actualValues).Storable)
    {c : Condition} (hc : c.toDoc.Storable) (now : Timestamp) : (evidenceOf actualValues now c).toDoc.Storable := by
  obtain ⟨hfield, hoperator, hvalue⟩ := Condition.storable_parts hc
  simp only [evidenceOf, Evidence.toDoc, Value.storable_fields, List.forall_mem_cons]
  refine ⟨by simp [List.nodup_cons], .str _, .str _, Value.storable_map.mpr ⟨by simp, by simp [List.nodup_cons], ?_⟩, .str _, by simp⟩
  simp only [List.forall_mem_cons]
  refine ⟨hfield, hoperator, hvalue, ?_, by simp⟩
  split
  · next name _ =>
    cases hfound : findEntry name actualValues with
    | none => exact .null
    | some v => exact Value.storable_findEntry hvalues hfound
  · exact .null

/-- The finding of a rule that rows can hold, on a dependency that rows can hold. -/
theorem storable_violationOf {p : Policy} {r : Rule} {d : Dependency} {c : EvaluationContext} {data : EvaluationData}
    {outcome : ConditionOutcome} {now : Timestamp} {metadata : RuleMetadata} (hp : p.Kept) (hr : r.Kept)
    (hd : d.Documented ∧ d.toDoc.Storable) (hc : c.Storable) (hdata : data.Storable)
    (houtcome : ConditionOutcome.of Field.standard data r.conditions = .ok outcome) (hnow : now.Fixed)
    (hmetadata : r.metadata = .held metadata) (topic : Topic) (id : Value) :
    (violationOf p r d outcome c now topic id metadata).Storable := by
  obtain ⟨hholding, hvalues⟩ := ConditionOutcome.storable_of hdata houtcome
  have hparts := hd.2
  simp only [Dependency.toDoc, Value.storable_fields, List.forall_mem_cons] at hparts
  obtain ⟨-, -, -, hecosystem, -, -, -, -, hfile, -⟩ := hparts
  have hplace := hc.place
  simp only [EvaluationContext.toDoc, Value.storable_fields, List.forall_mem_cons] at hplace
  obtain ⟨-, hproject, henvironment, hscan, hbuild, hcommit, hpull, -⟩ := hplace
  have hmeta := hr.metadata hmetadata
  simp only [RuleMetadata.toDoc, Value.storable_fields, List.forall_mem_cons] at hmeta
  refine {
    tenantId := hp.tenantId
    policyId := hp.id
    ruleId := hr.id
    dependency := hd
    type := hr.type
    severity := hr.documented.severity
    message := .str _
    details := {
      rule := hr
      triggered := fun c hc => hr.condition (hholding c hc)
      actualValues := hvalues
      evidence := List.forall_mem_map.mpr fun c hc =>
        ⟨hnow, storable_evidenceOf hvalues (hr.condition (hholding c hc)) now⟩
      impact := .str _
      recommendation := .str _ }
    context := ?_
    firstDetected := hnow
    lastSeen := hnow
    resolvedAt := fun _ h => by cases h
    resolvedBy := .null
    resolution := .null
    assignedTo := .null
    dueDate := fun _ h => by cases h
    tags := Value.storable_list.mp hmeta.2.1 }
  simp only [ViolationContext.toDoc, Value.storable_fields, List.forall_mem_cons]
  exact ⟨by simp [List.nodup_cons], hproject.orElse (.str _), henvironment.orElse (.str _), hecosystem, hfile, hscan, hbuild,
    hcommit, hpull, by simp⟩

end Finding

/-! ## Results of runs -/

/-- The evaluation is as documents give it, and a row can hold it. -/
structure Evaluation.Kept (e : Evaluation) : Prop where
  dependencyId : e.dependencyId.Storable
  policyIds : ∀ id ∈ e.policyIds, id.Storable
  violations : ∀ v ∈ e.violations, v.Kept
  warnings : ∀ v ∈ e.warnings, v.Kept
  exceptions : ∀ x ∈ e.exceptions, x.Kept
  evaluatedAt : e.evaluatedAt.Fixed
  duration : e.duration.Storable
  rulesEvaluated : ∃ n, e.rulesEvaluated = .int n
  rulesTriggered : e.rulesTriggered.Storable
  actionsExecuted : e.actionsExecuted.Storable

/-- The executed action is as documents give it, and a row can hold it. -/
structure ExecutedAction.Kept (a : ExecutedAction) : Prop where
  documented : a.Documented
  storable : a.toDoc.Storable

/-- The result has an id and a tenant that are texts, is as documents give it, and a row can hold it. -/
structure EnforcementResult.Kept (r : EnforcementResult) : Prop where
  evaluationId : ∃ s, r.evaluationId = .str s
  tenantId : ∃ s, r.tenantId = .str s
  counts : ∀ v ∈ [r.total, r.evaluated, r.skipped, r.cancelled, r.compliant, r.violating, r.warning, r.duration], v.Storable
  evaluations : ∀ e ∈ r.evaluations, e.Kept
  executedActions : ∀ a ∈ r.executedActions, a.Kept
  summary : r.summary.Documented ∧ r.summary.toDoc.Storable
  startTime : ∀ t ∈ r.startTime, t.Fixed
  endTime : ∀ t ∈ r.endTime, t.Fixed
  errors : (Value.map r.errors).Storable

namespace Evaluation.Kept

variable {e : Evaluation}

theorem documented (h : e.Kept) : e.Documented where
  violations v hv := (h.violations v hv).documented
  warnings v hv := (h.warnings v hv).documented
  exceptions x hx := (h.exceptions x hx).documented
  evaluatedAt := h.evaluatedAt

theorem writes (h : e.Kept) : e.toDoc.Writes := by
  obtain ⟨violations, hviolations, hviolationDocs⟩ := Reading.writes_mapM fun v hv => (h.violations v hv).writes
  obtain ⟨warnings, hwarnings, hwarningDocs⟩ := Reading.writes_mapM fun v hv => (h.warnings v hv).writes
  obtain ⟨n, hn⟩ := h.rulesEvaluated
  simp only [toDoc, hviolations, hwarnings, Reading.ok_bind]
  refine ⟨_, rfl, ?_⟩
  simp only [Value.storable_fields, List.forall_mem_cons]
  exact ⟨by simp [List.nodup_cons], h.dependencyId, Value.storable_list.mpr h.policyIds, by simp, hviolationDocs, hwarningDocs,
    Value.storable_ofRecords.mpr fun x hx => (h.exceptions x hx).storable, .str _, h.duration,
    ⟨by simp [List.nodup_cons], by simp [hn], h.rulesTriggered, h.actionsExecuted, by simp⟩, by simp⟩

end Evaluation.Kept

namespace EnforcementResult.Kept

variable {r : EnforcementResult}

theorem documented (h : r.Kept) : r.Documented where
  evaluations e he := (h.evaluations e he).documented
  executedActions a ha := (h.executedActions a ha).documented
  summary := h.summary.1
  startTime := h.startTime
  endTime := h.endTime

theorem writes (h : r.Kept) : r.toDoc.Writes := by
  obtain ⟨evaluations, hevaluations, hdocs⟩ := Reading.writes_mapM fun e he => (h.evaluations e he).writes
  obtain ⟨id, hid⟩ := h.evaluationId
  obtain ⟨tenantId, htenant⟩ := h.tenantId
  have hcounts := h.counts
  simp only [List.forall_mem_cons] at hcounts
  obtain ⟨htotal, hevaluated, hskipped, hcancelled, hcompliant, hviolating, hwarning, hduration, -⟩ := hcounts
  simp only [toDoc, hevaluations, Reading.ok_bind]
  refine ⟨_, rfl, ?_⟩
  simp only [Value.storable_fields, List.forall_mem_cons]
  exact ⟨by simp [List.nodup_cons], by simp [hid], by simp [htenant], htotal, hevaluated, hskipped, hcancelled, hcompliant, hviolating,
    hwarning, hdocs, Value.storable_ofRecords.mpr fun a ha => (h.executedActions a ha).storable, h.summary.2, by simp, by simp,
    hduration, h.errors, by simp⟩

end EnforcementResult.Kept

end SupplyGate
