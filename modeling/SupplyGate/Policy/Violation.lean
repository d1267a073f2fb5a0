import SupplyGate.Policy.Context
import SupplyGate.Policy.Rule
/-!
Violations: findings of a rule on a dependency, with the evidence for them and where they stand in
triage. A violation is found again by its tenant, policy, rule and dependency.
-/
namespace SupplyGate

inductive ViolationStatus where
  | «open»
  | acknowledged
  | resolved
  | suppressed
  | falsePositive
  deriving DecidableEq, Repr

namespace ViolationStatus

def toText : ViolationStatus → String
  | .open => "OPEN"
  | .acknowledged => "ACKNOWLEDGED"
  | .resolved => "RESOLVED"
  | .suppressed => "SUPPRESSED"
  | .falsePositive => "FALSE_POSITIVE"

instance : Scale ViolationStatus :=
  ⟨"ViolationStatus", [.open, .acknowledged, .resolved, .suppressed, .falsePositive], toText⟩

/-- The moves that triage may make. -/
def mayMove : ViolationStatus → ViolationStatus → Bool
  | .open, target => target != .open
  | .acknowledged, target => target != .open && target != .acknowledged
  | _, _ => false

end ViolationStatus

structure Evidence where
  type : Value
  source : Value
  content : List (Scalar × Value)
  timestamp : Timestamp

namespace Evidence

/-- The document of a piece of evidence. -/
def toDoc (e : Evidence) : Value :=
  .fields [
    ("type", e.type),
    ("source", e.source),
    ("content", .map e.content),
    ("timestamp", .str e.timestamp.format)]

/-- The piece of evidence that a document describes; it is of now unless the document says when. -/
def ofDoc (now : Timestamp) (doc : Value) : Reading Evidence := do
  let type ← doc.item "type"
  let source ← doc.field "source" ""
  let content ← (← doc.field "content").asEntriesOrEmpty
  let timestamp := (← (← doc.field "timestamp").asTimestamp).getD now
  return { type, source, content, timestamp }

end Evidence

/-- Why a rule triggered. -/
structure ViolationDetails where
  rule : Rule
  triggeredConditions : List Condition
  actualValues : List (Scalar × Value)
  evidence : List Evidence
  impact : Value
  recommendation : Value

namespace ViolationDetails

def toDoc (d : ViolationDetails) : Reading Value := do
  let rule ← d.rule.toDoc
  return .fields [
    ("rule", rule),
    ("triggered_conditions", .ofRecords Condition.toDoc d.triggeredConditions),
    ("actual_values", .map d.actualValues),
    ("evidence", .ofRecords Evidence.toDoc d.evidence),
    ("impact", d.impact),
    ("recommendation", d.recommendation)]

/-- The violation details that a document describes. -/
def ofDoc (now : Timestamp) (doc : Value) : Reading ViolationDetails := do
  let rule ← Rule.ofDoc (← doc.item "rule")
  let triggeredConditions ← (← doc.field "triggered_conditions").asRecordsOrEmpty Condition.ofDoc
  let actualValues ← (← doc.field "actual_values").asEntriesOrEmpty
  let evidence ← (← doc.field "evidence").asRecordsOrEmpty (Evidence.ofDoc now)
  let impact ← doc.field "impact" ""
  let recommendation ← doc.field "recommendation" ""
  return { rule, triggeredConditions, actualValues, evidence, impact, recommendation }

end ViolationDetails

/-- Where a violation was found. -/
structure ViolationContext where
  project : Value
  environment : Value
  ecosystem : Value
  packageFile : Value
  scanId : Value
  buildId : Value
  commitId : Value
  pullRequestId : Value

namespace ViolationContext

/-- The context of a violation in a run, on a dependency. -/
def of (c : EvaluationContext) (d : Dependency) : ViolationContext where
  project := c.project.orElse "unknown"
  environment := c.environment.orElse "unknown"
  ecosystem := d.ecosystem
  packageFile := d.packageFile
  scanId := c.scanId
  buildId := c.buildId
  commitId := c.commitId
  pullRequestId := c.pullRequestId

def toDoc (c : ViolationContext) : Value :=
  .fields [
    ("project", c.project),
    ("environment", c.environment),
    ("ecosystem", c.ecosystem),
    ("package_file", c.packageFile),
    ("scan_id", c.scanId),
    ("build_id", c.buildId),
    ("commit_id", c.commitId),
    ("pull_request_id", c.pullRequestId)]

/-- The violation context that a document describes. -/
def ofDoc (doc : Value) : Reading ViolationContext := do
  let doc := doc.orElse (.map [])
  let project ← doc.memberItem "project" "unknown"
  let environment ← doc.memberItem "environment" "unknown"
  let ecosystem ← doc.memberItem "ecosystem" ""
  let packageFile ← doc.memberItem "package_file" ""
  let scanId ← doc.memberItem "scan_id" .null
  let buildId ← doc.memberItem "build_id" .null
  let commitId ← doc.memberItem "commit_id" .null
  let pullRequestId ← doc.memberItem "pull_request_id" .null
  return {
    project, environment, ecosystem, packageFile, scanId, buildId, commitId, pullRequestId }

end ViolationContext

/-- A finding of a rule on a dependency. -/
structure Violation where
  id : Value
  tenantId : Value
  policyId : Value
  ruleId : Value
  dependency : Dependency
  type : Value
  severity : Loose Severity
  message : Value
  details : ViolationDetails
  context : ViolationContext
  status : ViolationStatus
  firstDetected : Timestamp
  lastSeen : Timestamp
  resolvedAt : Option Timestamp
  resolvedBy : Value
  resolution : Value
  assignedTo : Value
  dueDate : Option Timestamp
  tags : List Value

namespace Violation

/-- The key by which a finding is found again. -/
def keyOf (tenantId policyId ruleId : Value) (dependency : String) : String :=
  "|".intercalate [tenantId.rendered, policyId.rendered, ruleId.rendered, dependency]

def key (v : Violation) : String := keyOf v.tenantId v.policyId v.ruleId v.dependency.ident

/-- What the key of a violation is made of. -/
def keyParts (v : Violation) : List Value := [v.tenantId, v.policyId, v.ruleId, v.dependency.name]

def isBlocking (v : Violation) : Bool := v.details.rule.isBlocking

/-- The document of a violation. -/
def toDoc (v : Violation) : Reading Value := do
  let severity ← v.severity.part "value"
  let details ← v.details.toDoc
  return .fields [
    ("id", v.id),
    ("tenant_id", v.tenantId),
    ("policy_id", v.policyId),
    ("rule_id", v.ruleId),
    ("dependency", v.dependency.toDoc),
    ("violation_type", v.type),
    ("severity", Scale.value severity),
    ("message", v.message),
    ("details", details),
    ("context", v.context.toDoc),
    ("status", Scale.value v.status),
    ("first_detected", .str v.firstDetected.format),
    ("last_seen", .str v.lastSeen.format),
    ("resolved_at", Timestamp.toDoc v.resolvedAt),
    ("resolved_by", v.resolvedBy),
    ("resolution", v.resolution),
    ("assigned_to", v.assignedTo),
    ("due_date", Timestamp.toDoc v.dueDate),
    ("tags", .list v.tags)]

/-- The violation that a document describes; it was detected now unless the document says when. -/
def ofDoc (now : Timestamp) (doc : Value) : Reading Violation := do
  let id ← doc.item "id"
  let tenantId ← doc.item "tenant_id"
  let policyId ← doc.item "policy_id"
  let ruleId ← doc.item "rule_id"
  let dependency ← Dependency.ofDoc (← doc.item "dependency")
  let type ← doc.item "violation_type"
  let severity ← Scale.read (← doc.item "severity")
  let message ← doc.field "message" ""
  let details ← ViolationDetails.ofDoc now (← doc.item "details")
  let context ← ViolationContext.ofDoc (← doc.field "context")
  let status ← Scale.read (← doc.field "status" "OPEN")
  let firstDetected := (← (← doc.field "first_detected").asTimestamp).getD now
  let lastSeen := (← (← doc.field "last_seen").asTimestamp).getD now
  let resolvedAt ← (← doc.field "resolved_at").asTimestamp
  let resolvedBy ← doc.field "resolved_by"
  let resolution ← doc.field "resolution"
  let assignedTo ← doc.field "assigned_to"
  let dueDate ← (← doc.field "due_date").asTimestamp
  let tags ← (← doc.field "tags").asListOrEmpty
  return {
    id, tenantId, policyId, ruleId, dependency, type, severity := .held severity, message, details
    context, status, firstDetected, lastSeen, resolvedAt, resolvedBy, resolution, assignedTo
    dueDate, tags }

end Violation
end SupplyGate
