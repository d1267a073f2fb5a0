import SupplyGate.Policy.Template
import SupplyGate.Proofs.Policy.Documents
import SupplyGate.Proofs.Value.Storable

/-!
# Policies that rows can hold

A policy is kept by a row as its document gives it where it is as documents give it and its document is one that a
row can hold (`Policy.Kept`).
-/

namespace SupplyGate

/-! ## Rules -/

theorem Condition.storable_parts {c : Condition} (h : c.toDoc.Storable) :
    c.field.Storable ∧ c.operator.Storable ∧ c.value.Storable := by
  unfold Condition.toDoc at h
  simp only [Value.storable_fields, List.forall_mem_append, List.forall_mem_cons] at h
  exact ⟨h.2.1.1, h.2.1.2.1, h.2.1.2.2.1⟩

namespace ActionConfig

variable {c : ActionConfig}

/-- What a configuration says, part by part. -/
def parts (c : ActionConfig) : List (String × Value) := [
  ("blocking_message", c.blockingMessage),
  ("warning_message", c.warningMessage),
  ("log_level", c.logLevel),
  ("notification_channels", .list c.channels),
  ("recipients", .list c.recipients),
  ("escalation_level", c.escalationLevel),
  ("auto_fix_strategy", c.autoFixStrategy),
  ("issue_tracker", (c.issueTracker.map IssueTracker.toDoc).getD .null)]

/-- A row can hold a configuration if it can hold what the configuration says. -/
theorem storable_of_parts (h : ∀ v ∈ c.parts.map (·.2), v.Storable) : c.toDoc.Storable := by
  refine Value.storable_fields.mpr ⟨(List.filter_sublist.map Prod.fst).nodup (by simp [List.nodup_cons]), fun e he => ?_⟩
  exact h e.2 (List.mem_map_of_mem (List.mem_of_mem_filter he))

/-- A row that holds a configuration holds the parts that say something. -/
theorem storable_part (h : c.toDoc.Storable) {e : String × Value} (he : e ∈ c.parts) (hgiven : isGiven e.2 = true) :
    e.2.Storable :=
  (Value.storable_fields.mp h).2 e (List.mem_filter.mpr ⟨he, hgiven⟩)

theorem truthy_of_not_isGiven {v : Value} (h : isGiven v = false) : v.truthy = false := by
  unfold isGiven at h
  split at h
  · rfl
  · rfl
  · cases h

theorem storable_orElse (h : c.toDoc.Storable) {e : String × Value} (he : e ∈ c.parts) {w : Value} (hw : w.Storable) :
    (e.2.orElse w).Storable := by
  unfold Value.orElse
  cases hgiven : isGiven e.2 with
  | false =>
    rw [truthy_of_not_isGiven hgiven]
    exact hw
  | true =>
    split
    · exact storable_part h he hgiven
    · exact hw

end ActionConfig

/-- The rule is as documents give it, and a row can hold its document. -/
structure Rule.Kept (r : Rule) : Prop where
  documented : r.Documented
  writes : r.toDoc.Writes

namespace Rule

theorem writes_iff {r : Rule} : r.toDoc.Writes ↔
    (∃ s, r.severity = .held s) ∧ (∃ m, r.metadata = .held m ∧ m.toDoc.Storable) ∧ r.id.Storable ∧ r.name.Storable ∧
      r.description.Storable ∧ r.type.Storable ∧ r.enabled.Storable ∧ (∀ c ∈ r.conditions, c.toDoc.Storable) ∧
      ∀ a ∈ r.actions, a.toDoc.Storable := by
  obtain ⟨id, name, description, type, severity, enabled, conditions, actions, metadata⟩ := r
  cases severity with
  | raw v => simp [toDoc, Loose.part, Reading.Writes, Reading.bind_eq_ok]
  | held s =>
    cases metadata with
    | raw v => simp [toDoc, Loose.part, Reading.Writes, Reading.bind_eq_ok]
    | held m =>
      simp [toDoc, Loose.part_held, Reading.Writes, Reading.ok_bind, List.nodup_cons]
      tauto

namespace Kept

variable {r : Rule}

theorem id (h : r.Kept) : r.id.Storable := (writes_iff.mp h.writes).2.2.1

theorem type (h : r.Kept) : r.type.Storable := (writes_iff.mp h.writes).2.2.2.2.2.1

theorem condition (h : r.Kept) {c : Condition} (hc : c ∈ r.conditions) : c.toDoc.Storable :=
  (writes_iff.mp h.writes).2.2.2.2.2.2.2.1 c hc

theorem metadata (h : r.Kept) {m : RuleMetadata} (hm : r.metadata = .held m) : m.toDoc.Storable := by
  obtain ⟨m', hm', hstorable⟩ := (writes_iff.mp h.writes).2.1
  rw [hm] at hm'
  cases hm'
  exact hstorable

theorem withId (h : r.Kept) {id : Value} (hid : id.Storable) : Kept { r with id } where
  documented := ⟨h.documented.type, h.documented.severity, h.documented.actions, h.documented.metadata⟩
  writes := by
    obtain ⟨hseverity, hmetadata, -, hrest⟩ := writes_iff.mp h.writes
    exact writes_iff.mpr ⟨hseverity, hmetadata, hid, hrest⟩

end Kept

end Rule

/-! ## Exceptions and metadata -/

/-- The exception is as documents give it, and a row can hold its document. -/
structure PolicyException.Kept (e : PolicyException) : Prop where
  documented : e.Documented
  storable : e.toDoc.Storable

namespace PolicyException.Kept

variable {e : PolicyException}

theorem withId (h : e.Kept) {id : Value} (hid : id.Storable) : Kept { e with id } where
  documented := ⟨h.documented.approvedAt, h.documented.expiresAt, h.documented.reviewSchedule⟩
  storable := by
    have hparts := h.storable
    simp only [toDoc, Value.storable_fields, List.forall_mem_cons] at hparts ⊢
    exact ⟨hparts.1, hid, hparts.2.2⟩

theorem withStatus (h : e.Kept) (status : ExceptionStatus) : Kept { e with status } where
  documented := ⟨h.documented.approvedAt, h.documented.expiresAt, h.documented.reviewSchedule⟩
  storable := by
    have hparts := h.storable
    simp only [toDoc, Value.storable_fields, List.forall_mem_cons, Value.storable_text, true_and] at hparts ⊢
    exact hparts

end PolicyException.Kept

/-- The metadata are as documents give them, and a row can hold their document. -/
structure PolicyMetadata.Kept (m : PolicyMetadata) : Prop where
  documented : m.Documented
  storable : m.toDoc.Storable

/-- A change log may get one more entry, and take the place of another one. -/
theorem PolicyMetadata.Kept.withLog {m : PolicyMetadata} (h : m.Kept) {log : List PolicyChange}
    (hlog : ∀ c ∈ log, c.Documented ∧ c.toDoc.Storable) : Kept { m with changeLog := log } where
  documented := ⟨h.documented.lastReview, h.documented.nextReview, fun c hc => (hlog c hc).1⟩
  storable := by
    have hparts := h.storable
    simp only [toDoc, Value.storable_fields, List.forall_mem_cons, Value.storable_ofRecords] at hparts ⊢
    obtain ⟨hkeys, howner, hframework, hregulation, htags, hreviewers, hlast, hnext, -, hnil⟩ := hparts
    exact ⟨hkeys, howner, hframework, hregulation, htags, hreviewers, hlast, hnext, fun c hc => (hlog c hc).2, hnil⟩

theorem PolicyMetadata.Kept.log {m : PolicyMetadata} (h : m.Kept) : ∀ c ∈ m.changeLog, c.Documented ∧ c.toDoc.Storable := by
  have hparts := h.storable
  simp only [toDoc, Value.storable_fields, List.forall_mem_cons, Value.storable_ofRecords] at hparts
  exact fun c hc => ⟨h.documented.changeLog c hc, hparts.2.2.2.2.2.2.2.2.1 c hc⟩

/-! ## Policies -/

/-- Apart from its id and its tenant, the policy is as documents give it, and a row can hold it. -/
structure Policy.Storable (p : Policy) : Prop where
  name : p.name.Storable
  description : p.description.Storable
  version : ∃ s, p.version = .str s
  enabled : p.enabled.Storable
  priority : p.priority.Storable
  scope : ∃ s, p.scope = .held s ∧ s.toDoc.Storable
  rules : ∀ r ∈ p.rules, r.Kept
  enforcement : ∃ e, p.enforcement = .held e ∧ e.toDoc.Storable
  exceptions : ∃ es : List PolicyException, p.exceptions = .held (es.map .held) ∧ ∀ e ∈ es, e.Kept
  metadata : p.metadata.Kept
  createdAt : p.createdAt.Fixed
  updatedAt : p.updatedAt.Fixed
  createdBy : p.createdBy.Storable
  approvedBy : p.approvedBy.Storable
  approvedAt : ∃ o : Option Timestamp, p.approvedAt = (o.map Value.time).getD .null ∧ ∀ t ∈ o, t.Fixed

/-- The policy has an id and a tenant that are texts, is as documents give it, and a row can hold it. -/
structure Policy.Kept (p : Policy) : Prop extends p.Storable where
  id : ∃ s, p.id = .str s
  tenantId : ∃ s, p.tenantId = .str s

namespace Policy

variable {p : Policy}

theorem Storable.documented (h : p.Storable) : p.Documented where
  version := h.version
  scope := h.scope.imp fun _ hs => hs.1
  rules r hr := (h.rules r hr).documented
  enforcement := h.enforcement.imp fun _ he => he.1
  exceptions := h.exceptions.imp fun _ hes => ⟨hes.1, fun e he => (hes.2 e he).documented⟩
  metadata := h.metadata.documented
  createdAt := h.createdAt
  updatedAt := h.updatedAt
  approvedAt := h.approvedAt

theorem looseTimeDoc_time (o : Option Timestamp) :
    looseTimeDoc ((o.map Value.time).getD .null) = .ok (Timestamp.toDoc o) := by
  cases o <;> rfl

theorem exceptionDocs_held (es : List PolicyException) :
    (es.map Loose.held).mapM (fun e => PolicyException.toDoc <$> e.part "to_dict") = .ok (es.map PolicyException.toDoc) :=
  mapM_map fun e _ => Reading.map_ok PolicyException.toDoc e

theorem Kept.writes (h : p.Kept) : p.toDoc.Writes := by
  obtain ⟨scope, hscope, hscopeDoc⟩ := h.scope
  obtain ⟨enforcement, henforcement, henforcementDoc⟩ := h.enforcement
  obtain ⟨exceptions, hexceptions, hexceptionDocs⟩ := h.exceptions
  obtain ⟨approvedAt, happroved, -⟩ := h.approvedAt
  obtain ⟨rules, hrules, hruleDocs⟩ := Reading.writes_mapM fun r hr => (h.rules r hr).writes
  obtain ⟨id, hid⟩ := h.id
  obtain ⟨tenantId, htenant⟩ := h.tenantId
  obtain ⟨version, hversion⟩ := h.version
  simp only [toDoc, hscope, henforcement, exceptionList, hexceptions, happroved, hrules, Loose.part_held, exceptionDocs_held,
    looseTimeDoc_time, Reading.ok_bind]
  refine ⟨_, rfl, ?_⟩
  simp only [Value.storable_fields, List.forall_mem_cons]
  exact ⟨by simp [List.nodup_cons], by simp [hid], by simp [htenant], h.name, h.description, by simp [hversion], h.enabled,
    h.priority, hscopeDoc, hruleDocs, henforcementDoc, Value.storable_ofRecords.mpr fun e he => (hexceptionDocs e he).storable,
    h.metadata.storable, .str _, .str _, h.createdBy, h.approvedBy, by simp, by simp⟩

end Policy

/-! ## Templates -/

namespace Template

theorem kept_rule {name description type category rationale impact : String} {severity : Severity} {condition : Condition}
    {actions : List RuleAction} {tags references : List String} (htype : Text.upper type = type)
    (hcondition : condition.toDoc.Storable) (hactions : ∀ a ∈ actions, a.Documented ∧ a.toDoc.Storable) :
    (rule name description type severity condition actions category rationale impact tags references).Kept where
  documented := {
    type := ⟨type, rfl, htype⟩
    severity := ⟨severity, rfl⟩
    actions := fun a ha => (hactions a ha).1
    metadata := ⟨_, rfl, fun _ h => nomatch h⟩ }
  writes := Rule.writes_iff.mpr ⟨⟨_, rfl⟩, ⟨_, rfl, by simp [RuleMetadata.toDoc, List.nodup_cons]⟩, .str _, .str _, .str _, .str _,
    .bool _, fun c hc => List.mem_singleton.mp hc ▸ hcondition, fun a ha => (hactions a ha).2⟩

theorem storable_condition (field operator : String) {value : Value} (h : value.Storable) :
    (condition field operator value).toDoc.Storable := by
  simp [condition, Condition.toDoc, h, Value.truthy, Scalar.truthy]

/-- The rules of the templates can be held by rows. -/
theorem kept_rules : ∀ t ∈ all, ∀ r ∈ t.rules, r.Kept := by
  have hdocs {type : ActionType} {config : ActionConfig} (h : config.toDoc.Storable) :
      (RuleAction.of type config).Documented ∧ (RuleAction.of type config).toDoc.Storable :=
    ⟨RuleAction.documented_of type config, by simp [RuleAction.toDoc, RuleAction.of, h]⟩
  intro t ht r hr
  simp only [all, List.mem_cons, List.not_mem_nil, or_false] at ht
  rcases ht with rfl | rfl | rfl <;>
    simp only [securityStandard, licenseCompliance, maintenance, List.mem_cons, List.not_mem_nil, or_false] at hr
  · rcases hr with rfl | rfl <;> refine kept_rule rfl (storable_condition _ _ (.str _)) ?_
    all_goals
      simp only [List.forall_mem_cons]
      exact ⟨hdocs (ActionConfig.storable_of_parts (by simp [ActionConfig.parts, ActionConfig.empty])),
        hdocs (ActionConfig.storable_of_parts (by simp [ActionConfig.parts, ActionConfig.empty, IssueTracker.toDoc, List.nodup_cons])), by simp⟩
  · rcases hr with rfl | rfl
    · refine kept_rule rfl (storable_condition _ _ (by simp [Value.texts])) ?_
      exact List.forall_mem_singleton.mpr (hdocs (ActionConfig.storable_of_parts (by simp [ActionConfig.parts, ActionConfig.empty])))
    · refine kept_rule rfl (storable_condition _ _ .null) ?_
      exact List.forall_mem_singleton.mpr (hdocs (ActionConfig.storable_of_parts (by simp [ActionConfig.parts, ActionConfig.empty])))
  · subst hr
    refine kept_rule rfl (storable_condition _ _ (.int _)) ?_
    exact List.forall_mem_singleton.mpr (hdocs (ActionConfig.storable_of_parts (by simp [ActionConfig.parts, ActionConfig.empty])))

theorem storable_scope : ∀ t ∈ all, t.defaultScope.toDoc.Storable := by
  simp [all, securityStandard, licenseCompliance, maintenance, scope, PolicyScope.toDoc]

theorem storable_framework : ∀ t ∈ all, t.framework.Storable := by
  simp [all, securityStandard, licenseCompliance, maintenance]

end Template
end SupplyGate
