import SupplyGate.Policy.Exception
import SupplyGate.Policy.Violation
/-!
Evaluation records: what a run found for each dependency, which actions it executed, and the totals
of the whole run.
-/
namespace SupplyGate

/-- The verdict on a dependency. -/
inductive EvaluationStatus where
  | compliant
  | violation
  | warning
  | exception
  | skipped
  deriving DecidableEq, Repr

namespace EvaluationStatus

def toText : EvaluationStatus → String
  | .compliant => "COMPLIANT"
  | .violation => "VIOLATION"
  | .warning => "WARNING"
  | .exception => "EXCEPTION"
  | .skipped => "SKIPPED"

instance : Scale EvaluationStatus :=
  ⟨"EvaluationStatus", [.compliant, .violation, .warning, .exception, .skipped], toText⟩

/-- The verdict on findings: violations before warnings before applied exceptions. -/
def ofFindings {α β γ : Type} (violations : List α) (warnings : List β) (exceptions : List γ) :
    EvaluationStatus :=
  if !violations.isEmpty then .violation
  else if !warnings.isEmpty then .warning
  else if !exceptions.isEmpty then .exception
  else .compliant

end EvaluationStatus

/-- One dependency evaluated against the policies of a tenant. -/
structure Evaluation where
  dependencyId : Value
  policyIds : List Value
  status : EvaluationStatus
  violations : List Violation
  warnings : List Violation
  exceptions : List PolicyException
  evaluatedAt : Timestamp
  duration : Value
  rulesEvaluated : Value
  rulesTriggered : Value
  actionsExecuted : Value

namespace Evaluation

def isBlocked (e : Evaluation) : Bool := e.violations.any Violation.isBlocking

/-- All findings of an evaluation, violations first. -/
def findings (e : Evaluation) : List Violation := e.violations ++ e.warnings

/-- The document of an evaluation. -/
def toDoc (e : Evaluation) : Reading Value := do
  let violations ← e.violations.mapM Violation.toDoc
  let warnings ← e.warnings.mapM Violation.toDoc
  return .fields [
    ("dependency_id", e.dependencyId),
    ("policy_ids", .list e.policyIds),
    ("status", Scale.value e.status),
    ("violations", .list violations),
    ("warnings", .list warnings),
    ("exceptions", .ofRecords PolicyException.toDoc e.exceptions),
    ("evaluated_at", .str e.evaluatedAt.format),
    ("evaluation_duration_ms", e.duration),
    ("metadata", .fields [
      ("rules_evaluated", e.rulesEvaluated),
      ("rules_triggered", e.rulesTriggered),
      ("actions_executed", e.actionsExecuted)])]

/-- The evaluation that a document describes; it is of now unless the document says when. -/
def ofDoc (now : Timestamp) (doc : Value) : Reading Evaluation := do
  let counts := (← doc.field "metadata").orElse (.map [])
  let dependencyId ← doc.item "dependency_id"
  let policyIds ← (← doc.field "policy_ids").asListOrEmpty
  let status ← Scale.read (← doc.item "status")
  let violations ← (← doc.field "violations").asRecordsOrEmpty (Violation.ofDoc now)
  let warnings ← (← doc.field "warnings").asRecordsOrEmpty (Violation.ofDoc now)
  let exceptions ← (← doc.field "exceptions").asRecordsOrEmpty (PolicyException.ofDoc now)
  let evaluatedAt := (← (← doc.field "evaluated_at").asTimestamp).getD now
  let duration ← doc.field "evaluation_duration_ms" (.float 0.0)
  let rulesEvaluated ← counts.field "rules_evaluated" (.int 0)
  let rulesTriggered ← counts.field "rules_triggered" (.int 0)
  let actionsExecuted ← counts.field "actions_executed" (.int 0)
  return {
    dependencyId, policyIds, status, violations, warnings, exceptions, evaluatedAt, duration
    rulesEvaluated, rulesTriggered, actionsExecuted }

end Evaluation

/-- How an action ended. -/
inductive ActionStatus where
  | success
  | failed
  | skipped
  deriving DecidableEq, Repr

def ActionStatus.toText : ActionStatus → String
  | .success => "SUCCESS"
  | .failed => "FAILED"
  | .skipped => "SKIPPED"

instance : Scale ActionStatus :=
  ⟨"ActionStatus", [.success, .failed, .skipped], ActionStatus.toText⟩

/-- An action that was executed for a violation. -/
structure ExecutedAction where
  violationId : Value
  type : Value
  status : ActionStatus
  result : Value
  error : Value
  executedAt : Option Timestamp
  duration : Value

namespace ExecutedAction

def toDoc (a : ExecutedAction) : Value :=
  .fields [
    ("violation_id", a.violationId),
    ("action_type", a.type),
    ("status", Scale.value a.status),
    ("result", a.result),
    ("error", a.error),
    ("executed_at", Timestamp.toDoc a.executedAt),
    ("execution_duration_ms", a.duration)]

/-- The executed action that a document describes. -/
def ofDoc (doc : Value) : Reading ExecutedAction := do
  let violationId ← doc.item "violation_id"
  let type ← doc.item "action_type"
  let status ← Scale.read (← doc.item "status")
  let executedAt ← (← doc.item "executed_at").asTimestamp
  let duration ← doc.field "execution_duration_ms" (.float 0.0)
  let result ← doc.field "result"
  let error ← doc.field "error"
  return { violationId, type, status, result, error, executedAt, duration }

end ExecutedAction

/-- The totals of a run. -/
structure EnforcementSummary where
  policiesEvaluated : Value
  rulesEvaluated : Value
  violationsDetected : Value
  actionsExecuted : Value
  blockedDependencies : Value
  severityBreakdown : List (Scalar × Value)
  policyBreakdown : List (Scalar × Value)

namespace EnforcementSummary

/-- A count of zero for each severity. -/
def noSeverities : List (Scalar × Value) :=
  (Scale.members (α := Severity)).map fun s => (.str s.toText, .int 0)

def toDoc (s : EnforcementSummary) : Value :=
  .fields [
    ("policies_evaluated", s.policiesEvaluated),
    ("rules_evaluated", s.rulesEvaluated),
    ("violations_detected", s.violationsDetected),
    ("actions_executed", s.actionsExecuted),
    ("blocked_dependencies", s.blockedDependencies),
    ("severity_breakdown", .map s.severityBreakdown),
    ("policy_breakdown", .map s.policyBreakdown)]

/-- The summary that a document describes. -/
def ofDoc (doc : Value) : Reading EnforcementSummary := do
  let policiesEvaluated ← doc.field "policies_evaluated" (.int 0)
  let rulesEvaluated ← doc.field "rules_evaluated" (.int 0)
  let violationsDetected ← doc.field "violations_detected" (.int 0)
  let actionsExecuted ← doc.field "actions_executed" (.int 0)
  let blockedDependencies ← doc.field "blocked_dependencies" (.int 0)
  let severities ← ((← doc.field "severity_breakdown").orElse (.map [])).asOverlay
  let policyBreakdown ← (← doc.field "policy_breakdown").asEntriesOrEmpty
  return {
    policiesEvaluated, rulesEvaluated, violationsDetected, actionsExecuted, blockedDependencies
    severityBreakdown := Value.overlay noSeverities severities
    policyBreakdown }

end EnforcementSummary

structure EnforcementResult where
  evaluationId : Value
  tenantId : Value
  total : Value
  evaluated : Value
  skipped : Value
  cancelled : Value
  compliant : Value
  violating : Value
  warning : Value
  evaluations : List Evaluation
  executedActions : List ExecutedAction
  summary : EnforcementSummary
  startTime : Option Timestamp
  endTime : Option Timestamp
  duration : Value
  errors : List (Scalar × Value)

namespace EnforcementResult

/-- The run blocked a dependency. -/
def isBlocked (r : EnforcementResult) : Reading Bool :=
  r.summary.blockedDependencies.greater (.int 0)

def toDoc (r : EnforcementResult) : Reading Value := do
  let evaluations ← r.evaluations.mapM Evaluation.toDoc
  return .fields [
    ("evaluation_id", r.evaluationId),
    ("tenant_id", r.tenantId),
    ("total_dependencies", r.total),
    ("evaluated_dependencies", r.evaluated),
    ("skipped_dependencies", r.skipped),
    ("cancelled_dependencies", r.cancelled),
    ("compliant_dependencies", r.compliant),
    ("violating_dependencies", r.violating),
    ("warning_dependencies", r.warning),
    ("evaluations", .list evaluations),
    ("executed_actions", .ofRecords ExecutedAction.toDoc r.executedActions),
    ("summary", r.summary.toDoc),
    ("start_time", Timestamp.toDoc r.startTime),
    ("end_time", Timestamp.toDoc r.endTime),
    ("duration_ms", r.duration),
    ("errors", .map r.errors)]

/-- The result that a document describes. -/
def ofDoc (now : Timestamp) (doc : Value) : Reading EnforcementResult := do
  let evaluationId ← doc.item "evaluation_id"
  let tenantId ← doc.item "tenant_id"
  let total ← doc.item "total_dependencies"
  let evaluated ← doc.item "evaluated_dependencies"
  let skipped ← doc.item "skipped_dependencies"
  let cancelled ← doc.field "cancelled_dependencies" (.int 0)
  let compliant ← doc.item "compliant_dependencies"
  let violating ← doc.item "violating_dependencies"
  let warning ← doc.item "warning_dependencies"
  let evaluations ← (← doc.field "evaluations").asRecordsOrEmpty (Evaluation.ofDoc now)
  let executedActions ← (← doc.field "executed_actions").asRecordsOrEmpty ExecutedAction.ofDoc
  let summary ← EnforcementSummary.ofDoc ((← doc.field "summary").orElse (.map []))
  let startTime ← (← doc.item "start_time").asTimestamp
  let endTime ← (← doc.item "end_time").asTimestamp
  let duration ← doc.field "duration_ms" (.float 0.0)
  let errors ← (← doc.field "errors").asEntriesOrEmpty
  return {
    evaluationId, tenantId, total, evaluated, skipped, cancelled, compliant, violating, warning
    evaluations, executedActions, summary, startTime, endTime, duration, errors }

end EnforcementResult
end SupplyGate
