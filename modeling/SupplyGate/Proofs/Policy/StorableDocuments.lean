import SupplyGate.Policy.UpdateStrategy
import SupplyGate.Proofs.Policy.Storable

/-!
# Records of documents that rows can hold

What is read from a document that rows can hold can be held by rows again: rules, exceptions, metadata, policies and
update strategies.
-/

namespace SupplyGate

open Value (storable_fields storable_ofRecords storable_list)

variable {doc : Value} {now : Timestamp}

theorem Value.Storable.orMap {v : Value} (h : v.Storable) : (v.orElse (.map [])).Storable :=
  h.orElse (Value.storable_map.mpr (by simp))

/-! ## Rules -/

theorem Condition.storable_ofDoc {c : Condition} (hdoc : doc.Storable) (h : ofDoc doc = .ok c) : c.toDoc.Storable := by
  simp only [ofDoc, Reading.bind_eq_ok, Reading.pure_eq_ok] at h
  obtain ⟨field, hfield, operator, hoperator, value, hvalue, joinNext, hjoin, rfl⟩ := h
  have hparts : field.Storable ∧ operator.Storable ∧ value.Storable ∧ joinNext.Storable :=
    ⟨hdoc.field hfield (.str _), hdoc.field hoperator (.str _), hdoc.field hvalue .null, hdoc.field hjoin .null⟩
  unfold toDoc
  split <;> simp [hparts]

theorem IssueTracker.storable_ofDoc {t : IssueTracker} (hdoc : doc.Storable) (h : ofDoc doc = .ok t) : t.toDoc.Storable := by
  simp only [ofDoc, Reading.bind_eq_ok, Reading.pure_eq_ok] at h
  repeat obtain ⟨_, _, h⟩ := h
  simp only [toDoc, storable_fields, List.forall_mem_cons]
  exact ⟨by simp [List.nodup_cons], hdoc.item ‹_›, hdoc.item ‹_›, hdoc.field ‹_› (.str _), hdoc.field ‹_› (.str _),
    hdoc.field ‹_› .null, hdoc.listField ‹_› ‹_› .null, by simp⟩

theorem ActionConfig.storable_ofDoc {c : ActionConfig} (hdoc : doc.Storable) (h : ofDoc doc = .ok c) : c.toDoc.Storable := by
  have hdoc := hdoc.orMap
  simp only [ofDoc, Reading.bind_eq_ok] at h
  obtain ⟨tracker, htracker, h⟩ := h
  repeat obtain ⟨_, _, h⟩ := h
  -- with an issue tracker, and without
  split at h <;> simp only [Reading.bind_eq_ok, Reading.pure_eq_ok] at h <;> repeat obtain ⟨_, _, h⟩ := h
  all_goals
    subst_vars
    refine storable_of_parts ?_
    simp only [parts, List.map_cons, List.forall_mem_cons]
    refine ⟨hdoc.field ‹_› .null, hdoc.field ‹_› .null, hdoc.field ‹_› .null, hdoc.listField ‹_› ‹_› .null,
      hdoc.listField ‹_› ‹_› .null, hdoc.field ‹_› .null, hdoc.field ‹_› .null, ?_, by simp⟩
  · obtain ⟨t, ht, rfl⟩ := Reading.map_eq_ok.mp ‹some <$> IssueTracker.ofDoc tracker = _›
    exact IssueTracker.storable_ofDoc (hdoc.field htracker .null) ht
  · exact .null

theorem RuleAction.storable_ofDoc {a : RuleAction} (hdoc : doc.Storable) (h : ofDoc doc = .ok a) : a.toDoc.Storable := by
  simp only [ofDoc, Reading.bind_eq_ok, Reading.pure_eq_ok] at h
  obtain ⟨_, -, type, -, configDoc, hconfigDoc, config, hconfig, enabled, henabled, rfl⟩ := h
  simp only [toDoc, storable_fields, List.forall_mem_cons]
  exact ⟨by simp [List.nodup_cons], .str _, ActionConfig.storable_ofDoc (hdoc.field hconfigDoc .null) hconfig,
    hdoc.field henabled (.bool _), by simp⟩

theorem RuleMetadata.storable_ofDoc {m : RuleMetadata} (hdoc : doc.Storable) (h : ofDoc doc = .ok m) : m.toDoc.Storable := by
  have hdoc := hdoc.orMap
  simp only [ofDoc, Reading.bind_eq_ok, Reading.pure_eq_ok] at h
  repeat obtain ⟨_, _, h⟩ := h
  simp only [toDoc, storable_fields, List.forall_mem_cons]
  exact ⟨by simp [List.nodup_cons], hdoc.listField ‹_› ‹_› .null, hdoc.field ‹_› (.str _), hdoc.field ‹_› (.str _),
    hdoc.listField ‹_› ‹_› .null, by simp, hdoc.field ‹_› (.str _), by simp⟩

theorem Rule.kept_ofDoc {r : Rule} (hdoc : doc.Storable) (h : ofDoc doc = .ok r) : r.Kept where
  documented := documented_ofDoc h
  writes := by
    simp only [ofDoc, Reading.bind_eq_ok, Reading.pure_eq_ok] at h
    obtain ⟨id, hid, name, hname, description, hdescription, _, -, type, -, severityText, -, severity, hseverity, enabled, henabled,
      conditionDocs, hconditionDocs, conditions, hconditions, actionDocs, hactionDocs, actions, hactions, metadataDoc, hmetadataDoc,
      metadata, hmetadata, rfl⟩ := h
    refine writes_iff.mpr ⟨⟨severity, rfl⟩, ⟨metadata, rfl, ?_⟩, hdoc.field hid (.str _), hdoc.field hname (.str _),
      hdoc.field hdescription (.str _), .str _, hdoc.field henabled (.bool _), ?_, ?_⟩
    · exact RuleMetadata.storable_ofDoc (hdoc.field hmetadataDoc .null) hmetadata
    · exact (hdoc.field hconditionDocs .null).asRecordsOrEmpty hconditions fun _ _ => Condition.storable_ofDoc
    · exact (hdoc.field hactionDocs .null).asRecordsOrEmpty hactions fun _ _ => RuleAction.storable_ofDoc

/-! ## Exceptions and metadata -/

theorem ReviewSchedule.storable_ofDoc {s : ReviewSchedule} (hdoc : doc.Storable) (h : ofDoc doc = .ok s) :
    s.toDoc.Storable := by
  simp only [ofDoc, Reading.bind_eq_ok, Reading.pure_eq_ok] at h
  repeat obtain ⟨_, _, h⟩ := h
  simp only [toDoc, storable_fields, List.forall_mem_cons]
  exact ⟨by simp [List.nodup_cons], hdoc.field ‹_› (.str _), by simp, hdoc.field ‹_› (.str _), by simp⟩

theorem PolicyException.kept_ofDoc {e : PolicyException} (hdoc : doc.Storable) (hnow : now.Fixed) (h : ofDoc now doc = .ok e) :
    e.Kept where
  documented := documented_ofDoc hnow h
  storable := by
    simp only [ofDoc, Reading.bind_eq_ok] at h
    obtain ⟨schedule, hschedule, h⟩ := h
    repeat obtain ⟨_, _, h⟩ := h
    -- with a review schedule, and without
    split at h <;> simp only [Reading.bind_eq_ok, Reading.pure_eq_ok] at h <;> repeat obtain ⟨_, _, h⟩ := h
    all_goals
      subst_vars
      simp only [toDoc, storable_fields, List.forall_mem_cons]
      refine ⟨by simp [List.nodup_cons], hdoc.field ‹_› (.str _), hdoc.item ‹_›, hdoc.item ‹_›, hdoc.field ‹_› (.str _),
        hdoc.field ‹_› (.str _), hdoc.field ‹_› (.str _), .str _, by simp, hdoc.listField ‹_› ‹_› .null, ?_, by simp, by simp⟩
    · obtain ⟨s, hs, rfl⟩ := Reading.map_eq_ok.mp ‹some <$> ReviewSchedule.ofDoc schedule = _›
      exact ReviewSchedule.storable_ofDoc (hdoc.field hschedule .null) hs
    · exact .null

theorem PolicyChange.storable_ofDoc {c : PolicyChange} (hdoc : doc.Storable) (h : ofDoc doc = .ok c) : c.toDoc.Storable := by
  simp only [ofDoc, Reading.bind_eq_ok, Reading.pure_eq_ok] at h
  repeat obtain ⟨_, _, h⟩ := h
  simp only [toDoc, storable_fields, List.forall_mem_cons]
  exact ⟨by simp [List.nodup_cons], hdoc.item ‹_›, by simp, hdoc.field ‹_› (.str _), hdoc.field ‹_› (.str _),
    hdoc.listField ‹_› ‹_› .null, by simp⟩

theorem PolicyMetadata.kept_ofDoc {m : PolicyMetadata} (hdoc : doc.Storable) (h : ofDoc doc = .ok m) : m.Kept where
  documented := documented_ofDoc h
  storable := by
    have hdoc := hdoc.orMap
    simp only [ofDoc, Reading.bind_eq_ok, Reading.pure_eq_ok] at h
    repeat obtain ⟨_, _, h⟩ := h
    simp only [toDoc, storable_fields, List.forall_mem_cons, storable_ofRecords]
    refine ⟨by simp [List.nodup_cons], hdoc.field ‹_› (.str _), hdoc.field ‹_› .null, hdoc.field ‹_› .null, hdoc.listField ‹_› ‹_› .null,
      hdoc.listField ‹_› ‹_› .null, by simp, by simp, ?_, by simp⟩
    exact Value.Storable.asRecordsOrEmpty (hdoc.field ‹_› .null) ‹_› fun _ _ => PolicyChange.storable_ofDoc

/-! ## Policies -/

theorem PolicyScope.storable_ofDoc {s : PolicyScope} (hdoc : doc.Storable) (h : ofDoc doc = .ok s) : s.toDoc.Storable := by
  have hdoc := hdoc.orMap
  simp only [ofDoc, Reading.bind_eq_ok, Reading.pure_eq_ok] at h
  repeat obtain ⟨_, _, h⟩ := h
  simp only [toDoc, storable_fields, List.forall_mem_cons]
  exact ⟨by simp [List.nodup_cons], hdoc.listField ‹_› ‹_› .null, hdoc.listField ‹_› ‹_› .null, hdoc.listField ‹_› ‹_› .null,
    hdoc.listField ‹_› ‹_› .null, hdoc.listField ‹_› ‹_› .null, by simp⟩

theorem Enforcement.storable_ofDoc {e : Enforcement} (hdoc : doc.Storable) (h : ofDoc doc = .ok e) : e.toDoc.Storable := by
  have hdoc := hdoc.orMap
  simp only [ofDoc, Reading.bind_eq_ok, Reading.pure_eq_ok] at h
  repeat obtain ⟨_, _, h⟩ := h
  simp only [toDoc, storable_fields, List.forall_mem_cons]
  exact ⟨by simp [List.nodup_cons], by simp, hdoc.field ‹_› (.bool _), hdoc.field ‹_› (.bool _), hdoc.field ‹_› (.int _),
    hdoc.field ‹_› (.int _), by simp⟩

/-- **A policy of a document** that rows can hold can be held by a row, once it has an id and a tenant. -/
theorem Policy.storable_ofDoc {p : Policy} (hdoc : doc.Storable) (hnow : now.Fixed) (h : ofDoc now doc = .ok p) :
    p.Storable := by
  have hdocumented := documented_ofDoc hnow h
  simp only [ofDoc, Reading.bind_eq_ok, Reading.pure_eq_ok] at h
  obtain ⟨id, hid, tenantId, htenant, name, hname, description, hdescription, _, -, version, -, enabled, henabled, priority, hpriority,
    scopeDoc, hscopeDoc, scope, hscope, ruleDocs, hruleDocs, rules, hrules, enforcementDoc, henforcementDoc, enforcement,
    henforcement, exceptionDocs, hexceptionDocs, exceptions, hexceptions, metadataDoc, hmetadataDoc, metadata, hmetadata, h⟩ := h
  obtain ⟨_, -, _, -, _, -, _, -, createdBy, hcreatedBy, approvedBy, happrovedBy, _, -, _, -, rfl⟩ := h
  exact {
    name := hdoc.field hname (.str _)
    description := hdoc.field hdescription (.str _)
    version := hdocumented.version
    enabled := hdoc.field henabled (.bool _)
    priority := hdoc.field hpriority (.int _)
    scope := ⟨scope, rfl, PolicyScope.storable_ofDoc (hdoc.field hscopeDoc .null) hscope⟩
    rules := (hdoc.field hruleDocs .null).asRecordsOrEmpty hrules fun _ _ => Rule.kept_ofDoc
    enforcement := ⟨enforcement, rfl, Enforcement.storable_ofDoc (hdoc.field henforcementDoc .null) henforcement⟩
    exceptions := ⟨exceptions, rfl,
      (hdoc.field hexceptionDocs .null).asRecordsOrEmpty hexceptions fun _ _ hdoc => PolicyException.kept_ofDoc hdoc hnow⟩
    metadata := PolicyMetadata.kept_ofDoc (hdoc.field hmetadataDoc .null) hmetadata
    createdAt := hdocumented.createdAt
    updatedAt := hdocumented.updatedAt
    createdBy := hdoc.field hcreatedBy (.str _)
    approvedBy := hdoc.field happrovedBy .null
    approvedAt := hdocumented.approvedAt }

/-! ## Update strategies -/

theorem ApprovalRule.storable_ofDoc {r : ApprovalRule} (hdoc : doc.Storable) (h : ofDoc doc = .ok r) : r.toDoc.Storable := by
  simp only [ofDoc, Reading.bind_eq_ok, Reading.pure_eq_ok] at h
  repeat obtain ⟨_, _, h⟩ := h
  simp only [toDoc, storable_fields, List.forall_mem_cons]
  exact ⟨by simp [List.nodup_cons], by simp, hdoc.field ‹_› (.int _), hdoc.field ‹_› (.bool _), hdoc.listField ‹_› ‹_› .null, by simp⟩

theorem UpdateStrategy.storable_ofDoc {s : UpdateStrategy} (hdoc : doc.Storable) (h : ofDoc doc = .ok s) : s.toDoc.Storable := by
  simp only [ofDoc, Reading.bind_eq_ok, Reading.pure_eq_ok] at h
  obtain ⟨tenantId, htenant, strategy, hstrategy, ruleDocs, hruleDocs, rules, hrules, rfl⟩ := h
  simp only [toDoc, storable_fields, List.forall_mem_cons, storable_ofRecords]
  refine ⟨by simp [List.nodup_cons], hdoc.item htenant, hdoc.field hstrategy (.str _), ?_, by simp⟩
  exact (hdoc.field hruleDocs .null).asRecordsOrEmpty hrules fun _ _ => ApprovalRule.storable_ofDoc

end SupplyGate
