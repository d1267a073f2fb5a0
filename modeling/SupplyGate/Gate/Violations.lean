import SupplyGate.Gate.Evaluator
import SupplyGate.Gate.Policies
/-!
Violations of tenants: triage, the evaluation of a tenant's dependencies against its stored
policies, and what can be asked about both.
-/
namespace SupplyGate.Gate

def getViolation (violationId : Value) : Gate Violation := do
  match ← find .violations violationId with
  | some v => return v
  | none => throw (.naming (.notFound .violation) violationId)

/-- The violations with a status; without one, all. -/
def withStatus (status : Option ViolationStatus) (vs : List Violation) : List Violation :=
  match status with
  | some s => vs.filter fun v => v.status == s
  | none => vs

/-- The violations of a tenant, perhaps only those with a status, the oldest first. -/
def violationsOf (tenantId : Value) (status : Option ViolationStatus) : Gate (List Violation) := do
  sortAscending (.time ·.firstDetected) (withStatus status (← ofTenant .violations tenantId))

/-- Store a violation with another status, and with what else changes. The violation before comes first. -/
def storeMoved (violationId : Value) (target : ViolationStatus) (change : Violation → Violation) :
    Gate (Violation × Violation) := do
  let v ← getViolation violationId
  if !v.status.mayMove target then
    throw (.naming (.forbiddenMove · v.status.toText target.toText) violationId)
  let moved := change { v with status := target }
  keep .violations moved
  return (v, moved)

/-- Move a violation to a status, with what else changes. -/
def move (violationId : Value) (target : ViolationStatus) (actor : Value)
    (change : Violation → Violation) : Gate Violation := do
  let (v, moved) ← storeMoved violationId target change
  logValues [violationId, actor]
  publish (.statusChanged v.tenantId violationId v.status target actor)
  return moved

def resolve (violationId resolution resolvedBy : Value) : Gate Violation := do
  let now ← clock
  let v ← move violationId .resolved resolvedBy fun v =>
    { v with resolution, resolvedBy, resolvedAt := some now }
  publish (.violationResolved v)
  return v

/-- Acknowledge a violation, and assign it to someone. -/
def acknowledge (violationId acknowledgedBy assignedTo : Value) : Gate Violation :=
  move violationId .acknowledged acknowledgedBy fun v =>
    { v with assignedTo := assignedTo.orElse acknowledgedBy }

def suppress (violationId reason suppressedBy : Value) : Gate Violation :=
  move violationId .suppressed suppressedBy fun v => { v with resolution := reason }

def markFalsePositive (violationId reason markedBy : Value) : Gate Violation := do
  let now ← clock
  move violationId .falsePositive markedBy fun v =>
    { v with resolution := reason, resolvedBy := markedBy, resolvedAt := some now }

/-! ## Evaluation -/

/-- Evaluate dependencies against the stored policies of a tenant. -/
def evaluatePolicies (others : Collaborators) (dependencies : List Dependency) (tenantId : Value)
    (c : EvaluationContext) (cancel : Cancellation) : Gate EnforcementResult := do
  evaluateAll others dependencies tenantId (← policiesOf tenantId) c cancel

/-- The result of a run. -/
def evaluationResult (evaluationId : Value) : Gate (Option EnforcementResult) :=
  find .evaluations evaluationId

def setStrategy (s : UpdateStrategy) : Gate Unit := keep .strategies s

/-! ## Metrics -/

/-- The severities and types of some violations, counted together. -/
def violationCounts (vs : List Violation) :
    Reading (List (Scalar × Value) × List (Scalar × Value)) := do
  vs.foldlM (fun (severities, types) v => do
    let severity ← v.severity.part "value"
    let severities ← countUnder (.str severity.toText) severities
    return (severities, ← countUnder (← v.type.asScalar) types)) ([], [])

/-- The metrics of a tenant's policies and violations. -/
def policyMetrics (tenantId : Value) : Gate Value := do
  let ps : List Policy ← ofTenant .policies tenantId
  let vs : List Violation ← ofTenant .violations tenantId
  let (severities, types) ← ofReading (violationCounts vs)
  let runs : List EnforcementResult ← ofTenant .evaluations tenantId
  let count (n : Nat) : Value := .int n
  return .fields [
    ("total_policies", count ps.length),
    ("enabled_policies", count (ps.countP (·.enabled.truthy))),
    ("total_rules", count (ps.flatMap (·.rules)).length),
    ("total_violations", count vs.length),
    ("open_violations", count (vs.countP (·.status = .open))),
    ("resolved_violations", count (vs.countP (·.status = .resolved))),
    ("violations_by_severity", .map severities),
    ("violations_by_type", .map types),
    ("evaluation_history", count runs.length)]

end SupplyGate.Gate
