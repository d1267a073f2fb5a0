import SupplyGate.Proofs.Policy.FindingDocuments
import SupplyGate.Proofs.Risk.Documents
import SupplyGate.Proofs.Sample

/-!
# Documents that stand for themselves

Records that come from documents are kept as documents of their own. Such a document is its own document: read
again, now or later, it gives a record with the same document, for every class of records and whatever the first
document left out, set to null or gave in another case.
-/

namespace SupplyGate

/-- The classes of records that come from documents, with those of their parts. -/
inductive RecordClass where
  | dependency
  | vulnerability
  | riskFactor
  | mitigation
  | maintenanceWindow
  | stakeholder
  | businessContext
  | criteria
  | assessment
  | condition
  | issueTracker
  | actionConfig
  | ruleAction
  | ruleMetadata
  | rule
  | policyScope
  | enforcement
  | policyChange
  | policyMetadata
  | reviewSchedule
  | policyException
  | policy
  | evidence
  | violationDetails
  | violationContext
  | violation
  | evaluation
  | executedAction
  | enforcementSummary
  | enforcementResult
  | approvalRule
  | updateStrategy
  deriving DecidableEq, Repr

namespace RecordClass

/-- The document of the record of a class that a document describes. -/
def recode (c : RecordClass) (now : Timestamp) (doc : Value) : Reading Value :=
  match c with
  | dependency => return (← Dependency.ofDoc doc).toDoc
  | vulnerability => return (← Vulnerability.ofDoc doc).toDoc
  | riskFactor => return (← RiskFactor.ofDoc now doc).toDoc
  | mitigation => return (← Mitigation.ofDoc doc).toDoc
  | maintenanceWindow => return .fields (← FieldList.maintenanceWindow.fill doc)
  | stakeholder => do BusinessContext.stakeholderDoc (← FieldList.stakeholder.fill doc)
  | businessContext => do (← BusinessContext.ofDoc doc).toDoc
  | criteria => return (← Criteria.ofDoc doc).toDoc
  | assessment => do (← Assessment.ofDoc now doc).toDoc
  | condition => return (← Condition.ofDoc doc).toDoc
  | issueTracker => return (← IssueTracker.ofDoc doc).toDoc
  | actionConfig => return (← ActionConfig.ofDoc doc).toDoc
  | ruleAction => return (← RuleAction.ofDoc doc).toDoc
  | ruleMetadata => return (← RuleMetadata.ofDoc doc).toDoc
  | rule => do (← Rule.ofDoc doc).toDoc
  | policyScope => return (← PolicyScope.ofDoc doc).toDoc
  | enforcement => return (← Enforcement.ofDoc doc).toDoc
  | policyChange => return (← PolicyChange.ofDoc doc).toDoc
  | policyMetadata => return (← PolicyMetadata.ofDoc doc).toDoc
  | reviewSchedule => return (← ReviewSchedule.ofDoc doc).toDoc
  | policyException => return (← PolicyException.ofDoc now doc).toDoc
  | policy => do (← Policy.ofDoc now doc).toDoc
  | evidence => return (← Evidence.ofDoc now doc).toDoc
  | violationDetails => do (← ViolationDetails.ofDoc now doc).toDoc
  | violationContext => return (← ViolationContext.ofDoc doc).toDoc
  | violation => do (← Violation.ofDoc now doc).toDoc
  | evaluation => do (← Evaluation.ofDoc now doc).toDoc
  | executedAction => return (← ExecutedAction.ofDoc doc).toDoc
  | enforcementSummary => return (← EnforcementSummary.ofDoc doc).toDoc
  | enforcementResult => do (← EnforcementResult.ofDoc now doc).toDoc
  | approvalRule => return (← ApprovalRule.ofDoc doc).toDoc
  | updateStrategy => return (← UpdateStrategy.ofDoc doc).toDoc

section

variable {α : Type} {read again : Value → Reading α} {doc v : Value}

/-- A document that was made of a record that was read, and that gives a record with this document, is its own. -/
theorem again_of_read {toDoc : α → Reading Value} {P : α → Prop} (h : (read doc >>= toDoc) = .ok v)
    (hread : ∀ a, read doc = .ok a → P a) (hagain : ∀ a, P a → toDoc a = .ok v → ∃ a', again v = .ok a' ∧ toDoc a' = .ok v) :
    (again v >>= toDoc) = .ok v := by
  obtain ⟨a, ha, hdoc⟩ := Reading.bind_eq_ok.mp h
  obtain ⟨a', ha', hdoc'⟩ := hagain a (hread a ha) hdoc
  exact Reading.bind_eq_ok.mpr ⟨a', ha', hdoc'⟩

/-- The same of records whose documents give other records with these documents. -/
theorem again_of_asRead {toDoc : α → Reading Value} {P : α → Prop} {asRead : α → α} (h : (read doc >>= toDoc) = .ok v)
    (hread : ∀ a, read doc = .ok a → P a) (hagain : ∀ a, P a → toDoc a = .ok v → again v = .ok (asRead a))
    (hsame : ∀ a, toDoc (asRead a) = toDoc a) : (again v >>= toDoc) = .ok v :=
  again_of_read h hread fun a ha hdoc => ⟨asRead a, hagain a ha hdoc, (hsame a).trans hdoc⟩

/-- The same of records that always have a document. -/
theorem again_of_written {toDoc : α → Value} {P : α → Prop} {asRead : α → α}
    (h : (read doc >>= fun a => pure (toDoc a)) = .ok v) (hread : ∀ a, read doc = .ok a → P a)
    (hagain : ∀ a, P a → again (toDoc a) = .ok (asRead a)) (hsame : ∀ a, toDoc (asRead a) = toDoc a) :
    (again v >>= fun a => pure (toDoc a)) = .ok v := by
  refine again_of_asRead h hread (fun a ha hdoc => ?_) fun a => congrArg pure (hsame a)
  obtain rfl := Reading.pure_eq_ok.mp hdoc
  exact hagain a ha

/-- The same of records that are read again from their own documents. -/
theorem again_of_same {toDoc : α → Value} {P : α → Prop} (h : (read doc >>= fun a => pure (toDoc a)) = .ok v)
    (hread : ∀ a, read doc = .ok a → P a) (hagain : ∀ a, P a → again (toDoc a) = .ok a) :
    (again v >>= fun a => pure (toDoc a)) = .ok v :=
  again_of_written h hread hagain fun _ => rfl

end

/-- The document of a record that was read from a document gives a record with this document. -/
theorem recode_recode {c : RecordClass} {now later : Timestamp} (hnow : now.Fixed) {doc v : Value}
    (h : c.recode now doc = .ok v) : c.recode later v = .ok v := by
  cases c with
  | dependency => exact again_of_same h (fun _ => Dependency.documented_ofDoc) fun _ => Dependency.ofDoc_toDoc
  | vulnerability => exact again_of_same h (fun _ => Vulnerability.documented_ofDoc) fun _ => Vulnerability.ofDoc_toDoc
  | riskFactor => exact again_of_same h (fun _ => RiskFactor.documented_ofDoc hnow) fun _ ha => RiskFactor.ofDoc_toDoc ha later
  | mitigation => exact again_of_same h (fun _ _ => trivial) fun a _ => a.ofDoc_toDoc
  | maintenanceWindow =>
    exact again_of_same h (fun _ => FieldList.fills_of_fill) fun _ => FieldList.fill_fields FieldList.nodup_maintenanceWindow
  | stakeholder =>
    refine again_of_read h (fun _ => FieldList.fills_of_fill) fun _ hfills hdoc => ?_
    obtain ⟨listed, rfl, hkeys, hagain⟩ := BusinessContext.stakeholderDoc_ok hdoc
    exact ⟨listed, FieldList.fill_fields FieldList.nodup_stakeholder (hkeys.trans hfills), hagain⟩
  | businessContext =>
    exact again_of_read h (fun _ => BusinessContext.documented_ofDoc) fun _ ha hdoc => BusinessContext.recoded ha hdoc
  | criteria => exact again_of_same h (fun _ => Criteria.documented_ofDoc) fun _ => Criteria.ofDoc_toDoc
  | assessment =>
    exact again_of_read h (fun _ => Assessment.documented_ofDoc hnow) fun _ ha hdoc => Assessment.recoded ha later hdoc
  | condition => exact again_of_written h (fun _ _ => trivial) (fun a _ => a.ofDoc_toDoc) Condition.toDoc_asRead
  | issueTracker => exact again_of_same h (fun _ _ => trivial) fun a _ => a.ofDoc_toDoc
  | actionConfig => exact again_of_written h (fun _ _ => trivial) (fun a _ => a.ofDoc_toDoc) ActionConfig.toDoc_asRead
  | ruleAction =>
    exact again_of_written h (fun _ => RuleAction.documented_ofDoc) (fun _ => RuleAction.ofDoc_toDoc) RuleAction.toDoc_asRead
  | ruleMetadata => exact again_of_same h (fun _ => RuleMetadata.documented_ofDoc) fun _ => RuleMetadata.ofDoc_toDoc
  | rule =>
    exact again_of_asRead h (fun _ => Rule.documented_ofDoc) (fun _ ha hdoc => Rule.ofDoc_toDoc ha hdoc) Rule.toDoc_asRead
  | policyScope => exact again_of_same h (fun _ _ => trivial) fun a _ => a.ofDoc_toDoc
  | enforcement => exact again_of_same h (fun _ _ => trivial) fun a _ => a.ofDoc_toDoc
  | policyChange => exact again_of_same h (fun _ => PolicyChange.documented_ofDoc) fun _ => PolicyChange.ofDoc_toDoc
  | policyMetadata => exact again_of_same h (fun _ => PolicyMetadata.documented_ofDoc) fun _ => PolicyMetadata.ofDoc_toDoc
  | reviewSchedule => exact again_of_same h (fun _ => ReviewSchedule.documented_ofDoc) fun _ => ReviewSchedule.ofDoc_toDoc
  | policyException =>
    exact again_of_same h (fun _ => PolicyException.documented_ofDoc hnow) fun _ ha => PolicyException.ofDoc_toDoc ha later
  | policy =>
    exact again_of_asRead h (fun _ => Policy.documented_ofDoc hnow) (fun _ ha hdoc => Policy.ofDoc_toDoc ha later hdoc)
      Policy.toDoc_asRead
  | evidence => exact again_of_same h (fun _ => Evidence.documented_ofDoc hnow) fun _ ha => Evidence.ofDoc_toDoc ha later
  | violationDetails =>
    exact again_of_asRead h (fun _ => ViolationDetails.documented_ofDoc hnow)
      (fun _ ha hdoc => ViolationDetails.ofDoc_toDoc ha later hdoc) ViolationDetails.toDoc_asRead
  | violationContext => exact again_of_same h (fun _ _ => trivial) fun a _ => a.ofDoc_toDoc
  | violation =>
    exact again_of_asRead h (fun _ => Violation.documented_ofDoc hnow) (fun _ ha hdoc => Violation.ofDoc_toDoc ha later hdoc)
      Violation.toDoc_asRead
  | evaluation =>
    exact again_of_asRead h (fun _ => Evaluation.documented_ofDoc hnow) (fun _ ha hdoc => Evaluation.ofDoc_toDoc ha later hdoc)
      Evaluation.toDoc_asRead
  | executedAction => exact again_of_same h (fun _ => ExecutedAction.documented_ofDoc) fun _ => ExecutedAction.ofDoc_toDoc
  | enforcementSummary =>
    exact again_of_same h (fun _ => EnforcementSummary.documented_ofDoc) fun _ => EnforcementSummary.ofDoc_toDoc
  | enforcementResult =>
    exact again_of_asRead h (fun _ => EnforcementResult.documented_ofDoc hnow)
      (fun _ ha hdoc => EnforcementResult.ofDoc_toDoc ha later hdoc) EnforcementResult.toDoc_asRead
  | approvalRule => exact again_of_same h (fun _ _ => trivial) fun a _ => a.ofDoc_toDoc
  | updateStrategy => exact again_of_same h (fun _ _ => trivial) fun a _ => a.ofDoc_toDoc

/-- An exception with little said of it, in lower case: it is approved when it is first read, and stays so. -/
theorem recode_recode_exception :
    let doc : Value := .fields [("rule_id", "R1"), ("dependency", "left-pad"), ("expires_at", .null), ("status", "active")]
    let later : Timestamp := { Sample.moment with hour := 23 }
    Sample.moment.Fixed ∧ ∃ v, policyException.recode Sample.moment doc = .ok v ∧ policyException.recode later v = .ok v := by
  intro doc later
  have hfixed : Sample.moment.Fixed := by decide
  obtain ⟨v, hv⟩ : ∃ v, policyException.recode Sample.moment doc = .ok v := ⟨_, rfl⟩
  exact ⟨hfixed, v, hv, recode_recode hfixed hv⟩

end RecordClass

end SupplyGate
