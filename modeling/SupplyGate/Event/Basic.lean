import SupplyGate.Event.Payload
import SupplyGate.Policy.Basic
import SupplyGate.Policy.Violation
/-!
Events: what the program tells the outside about scores, policies, findings and actions. Each event
has a name and a payload with named parts.
-/
namespace SupplyGate

inductive Event where
  | contextUpdated (tenantId context : Value)
  | criteriaUpdated (tenantId criteria : Value)
  | riskAssessed (tenantId assessmentId : Value) (dependencyId : String) (level : RiskLevel)
      (score : Value)
  | riskReassessed (tenantId assessmentId previousId : Value) (level : RiskLevel) (score : Value)
  | policyCreated (tenantId : Value) (policy : Policy)
  | policyCreatedFromTemplate (tenantId templateId policyId : Value)
  | policyUpdated (tenantId policyId version updatedBy : Value)
  | policyDeleted (tenantId policyId : Value)
  | exceptionAdded (tenantId policyId : Value) (exception : PolicyException)
  | exceptionRevoked (tenantId policyId exceptionId revokedBy : Value)
  | statusChanged (tenantId violationId : Value) (before after : ViolationStatus) (changedBy : Value)
  | violationResolved (violation : Violation)
  | evaluationStarted (evaluationId tenantId : Value) (dependencies : Nat)
  | dependencyFailed (evaluationId tenantId dependency : Value) (error : String)
  | evaluationFailed (evaluationId tenantId : Value) (error : String)
  | evaluationCompleted (evaluationId tenantId violations blocked skipped : Value)
  | dependencyBlocked (violation : Violation) (reason : Value)
  | dependencyWarned (violation : Violation) (warning : Value)
  | violationLogged (tenantId violationId : Value) (level message : String)
  | notificationSent (violation : Violation) (channels recipients : List Value)
  | autoFixTriggered (violation : Violation) (strategy : String) (requiresApproval : Bool)
  | issueCreated (violation : Violation) (tracker project issue issueKey : Value)
  | escalated (violation : Violation) (level : Value) (at_ : Timestamp)

namespace Event

def name : Event → String
  | .contextUpdated .. => "businessContextUpdated"
  | .criteriaUpdated .. => "criteriaUpdated"
  | .riskAssessed .. => "riskAssessed"
  | .riskReassessed .. => "riskReassessed"
  | .policyCreated .. => "policyCreated"
  | .policyCreatedFromTemplate .. => "policyCreatedFromTemplate"
  | .policyUpdated .. => "policyUpdated"
  | .policyDeleted .. => "policyDeleted"
  | .exceptionAdded .. => "exceptionAdded"
  | .exceptionRevoked .. => "exceptionRevoked"
  | .statusChanged .. => "violationStatusChanged"
  | .violationResolved .. => "violationResolved"
  | .evaluationStarted .. => "policyEvaluationStarted"
  | .dependencyFailed .. => "dependencyEvaluationError"
  | .evaluationFailed .. => "policyEvaluationFailed"
  | .evaluationCompleted .. => "policyEvaluationCompleted"
  | .dependencyBlocked .. => "dependencyBlocked"
  | .dependencyWarned .. => "dependencyWarning"
  | .violationLogged .. => "policyViolationLogged"
  | .notificationSent .. => "policyViolationNotification"
  | .autoFixTriggered .. => "autoFixTriggered"
  | .issueCreated .. => "issueCreated"
  | .escalated .. => "violationEscalated"

/-- A violation as a part of a payload. -/
def ofViolation (v : Violation) : Payload := .record v.id v.toDoc

/-- The parts that say which finding an event is about; the last part comes between them. -/
def findingParts (v : Violation) (label : String) (told : Value) : List (String × Payload) := [
  ("tenant_id", v.tenantId),
  ("dependency", v.dependency.name),
  ("dependency_id", Value.str v.dependency.ident),
  (label, told),
  ("policy_id", v.policyId),
  ("rule_id", v.ruleId)]

/-- The named parts of an event. -/
def parts : Event → List (String × Payload)
  | .contextUpdated tenantId context => [("tenant_id", tenantId), ("context", context)]
  | .criteriaUpdated tenantId criteria => [("tenant_id", tenantId), ("criteria", criteria)]
  | .riskAssessed tenantId assessmentId dependencyId level score => [
    ("tenant_id", tenantId), ("assessment_id", assessmentId),
    ("dependency_id", Value.str dependencyId), ("risk_level", Scale.value level),
    ("risk_score", score)]
  | .riskReassessed tenantId assessmentId previousId level score => [
    ("tenant_id", tenantId), ("assessment_id", assessmentId),
    ("previous_assessment_id", previousId), ("risk_level", Scale.value level),
    ("risk_score", score)]
  | .policyCreated tenantId policy => [
    ("tenant_id", tenantId), ("policy", .record policy.id policy.toDoc)]
  | .policyCreatedFromTemplate tenantId templateId policyId => [
    ("tenant_id", tenantId), ("template_id", templateId), ("policy_id", policyId)]
  | .policyUpdated tenantId policyId version updatedBy => [
    ("tenant_id", tenantId), ("policy_id", policyId), ("version", version),
    ("updated_by", updatedBy)]
  | .policyDeleted tenantId policyId => [("tenant_id", tenantId), ("policy_id", policyId)]
  | .exceptionAdded tenantId policyId exception => [
    ("tenant_id", tenantId), ("policy_id", policyId),
    ("exception", .record exception.id (.ok exception.toDoc))]
  | .exceptionRevoked tenantId policyId exceptionId revokedBy => [
    ("tenant_id", tenantId), ("policy_id", policyId), ("exception_id", exceptionId),
    ("revoked_by", revokedBy)]
  | .statusChanged tenantId violationId before after changedBy => [
    ("tenant_id", tenantId), ("violation_id", violationId), ("from", Scale.value before),
    ("to", Scale.value after), ("changed_by", changedBy)]
  | .violationResolved violation => [("violation", ofViolation violation)]
  | .evaluationStarted evaluationId tenantId dependencies => [
    ("evaluation_id", evaluationId), ("tenant_id", tenantId),
    ("dependency_count", .ofCount (.int dependencies))]
  | .dependencyFailed evaluationId tenantId dependency error => [
    ("evaluation_id", evaluationId), ("tenant_id", tenantId), ("dependency", dependency),
    ("error", Value.str error)]
  | .evaluationFailed evaluationId tenantId error => [
    ("evaluation_id", evaluationId), ("tenant_id", tenantId), ("error", Value.str error)]
  | .evaluationCompleted evaluationId tenantId violations blocked skipped => [
    ("evaluation_id", evaluationId), ("tenant_id", tenantId), ("violations_count", .ofCount violations),
    ("blocked_count", .ofCount blocked), ("skipped_count", .ofCount skipped)]
  | .dependencyBlocked violation reason => findingParts violation "reason" reason
  | .dependencyWarned violation warning => findingParts violation "warning" warning
  | .violationLogged tenantId violationId level message => [
    ("tenant_id", tenantId), ("violation_id", violationId), ("level", Value.str level),
    ("message", Value.str message)]
  | .notificationSent violation channels recipients => [
    ("violation", ofViolation violation), ("channels", Value.list channels),
    ("recipients", Value.list recipients)]
  | .autoFixTriggered violation strategy requiresApproval => [
    ("tenant_id", violation.tenantId), ("dependency", violation.dependency.name),
    ("dependency_id", Value.str violation.dependency.ident), ("strategy", Value.str strategy),
    ("violation", violation.id), ("requires_approval", Value.bool requiresApproval)]
  | .issueCreated violation tracker project issue issueKey => [
    ("tenant_id", violation.tenantId), ("tracker", tracker), ("project", project),
    ("issue", issue), ("issue_key", issueKey), ("violation", violation.id)]
  | .escalated violation level at_ => [
    ("violation", ofViolation violation), ("level", level), ("escalated_at", Value.time at_)]

/-- What an event carries. -/
def payload (e : Event) : Payload := .fields e.parts

end Event
end SupplyGate
