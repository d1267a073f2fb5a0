import SupplyGate.Gate.Actions
import SupplyGate.Policy.Finding
import SupplyGate.Policy.Selection
/-!
Evaluation: dependencies against policies. A dependency is checked against the policies that take
effect and apply to it, highest priority first; each triggered rule gives a finding, which is found
again in the store if it was detected before. A run gives each dependency of a batch its turn; one
that fails is skipped, and a run can be cancelled between two of them. A turn that cannot even tell
of its failure fails the run, once all have had their turn.
-/
namespace SupplyGate

/-- What the rules checked so far have given. -/
structure Tally where
  policyIds : List Value
  violations : List Violation
  warnings : List Violation
  exceptions : List PolicyException
  rulesEvaluated : Nat
  rulesTriggered : Nat

namespace Tally

/-- Before the first policy. -/
def empty : Tally := ⟨[], [], [], [], 0, 0⟩

/-- A finding of a rule, which blocks or warns. -/
def addFinding (t : Tally) (r : Rule) (v : Violation) : Tally :=
  let t := { t with rulesTriggered := t.rulesTriggered + 1 }
  if r.isBlocking then { t with violations := t.violations ++ [v] }
  else { t with warnings := t.warnings ++ [v] }

def evaluation (t : Tally) (d : Dependency) (now : Timestamp) : Evaluation where
  dependencyId := .str d.ident
  policyIds := t.policyIds
  status := .ofFindings t.violations t.warnings t.exceptions
  violations := t.violations
  warnings := t.warnings
  exceptions := t.exceptions
  evaluatedAt := now
  duration := .float 0.0
  rulesEvaluated := .int t.rulesEvaluated
  rulesTriggered := .int t.rulesTriggered
  actionsExecuted := .int 0

end Tally

namespace Gate

/-- The violation of a triggered rule. It takes an id even if a stored violation is kept. -/
def foundViolation (p : Policy) (r : Rule) (d : Dependency) (outcome : ConditionOutcome)
    (c : EvaluationContext) (now : Timestamp) : Gate Violation := do
  let topic ← Finding.topicOf r.type
  r.name.checkWritable
  let id ← fresh .violation
  let metadata ← r.metadata.part "tags"
  return Finding.violationOf p r d outcome c now topic id metadata

/-- Store a violation, or refresh the one on record that it detects again. -/
def record (now : Timestamp) (v : Violation) : Gate Violation := do
  Value.checkAll v.keyParts
  let found ← findOrAdd .violations v.key v (Finding.seenAgain now v)
  match found.previous with
  | some old =>
    if old.status = .resolved then
      publish (.statusChanged found.record.tenantId found.record.id .resolved .open "system")
  | none => pure ()
  return found.record

def checkRule (p : Policy) (d : Dependency) (data : EvaluationData) (c : EvaluationContext)
    (now : Timestamp) (t : Tally) (r : Rule) : Gate Tally := do
  if !r.enabled.truthy then return t
  let t := { t with rulesEvaluated := t.rulesEvaluated + 1 }
  match ← p.exceptionFor r d now with
  | some e => return { t with exceptions := t.exceptions ++ [e] }
  | none => do
    let outcome ← ConditionOutcome.of Field.standard data r.conditions
    if !outcome.triggered then return t
    let v ← record now (← foundViolation p r d outcome c now)
    return t.addFinding r v

def checkPolicy (d : Dependency) (data : EvaluationData) (c : EvaluationContext) (now : Timestamp)
    (t : Tally) (p : Policy) : Gate Tally := do
  if ← p.appliesTo d c then
    p.rules.foldlM (checkRule p d data c now) { t with policyIds := t.policyIds ++ [p.id] }
  else return t

def evaluateDependency (d : Dependency) (policies : List Policy) (c : EvaluationContext) :
    Gate Evaluation := do
  let now := c.now.getD (← clock)
  let data ← EvaluationData.of d c now
  let tally ← (← Policy.active policies).foldlM (checkPolicy d data c now) .empty
  return tally.evaluation d now

/-! ## Runs -/

/-- Whether a run is cancelled, told by how many dependencies have had their turn and by the events
that it has published. -/
abbrev Cancellation := Nat → List Event → Bool

/-- How the turn of a dependency ended. -/
inductive Turn where
  | evaluated (e : Evaluation) (executed : List ExecutedAction)
  | skipped (error : String)
  | cancelled

variable {m : Type → Type} [Monad m] [MonadExceptOf Fault m] [MonadLiftT Gate m]

/-- Evaluate a dependency and execute the actions of its findings. -/
def evaluateAndAct (others : Collaborators) (policies : List Policy) (c : EvaluationContext)
    (d : Dependency) : m Turn := do
  let e ← evaluateDependency d policies c
  let executed := (← e.findings.mapM (execute others c)).flatten
  return .evaluated { e with actionsExecuted := .int executed.length } executed

/-- Tell that a dependency could not be evaluated; it is skipped. -/
def skip (evaluationId tenantId : Value) (d : Dependency) (f : Fault) : Gate Turn := do
  logValues [d.name]
  publish (.dependencyFailed evaluationId tenantId d.name f.message)
  return .skipped f.message

/-- The turn of a dependency, with its position, in a run whose events begin after the first
`before`. -/
def turn (others : Collaborators) (evaluationId tenantId : Value) (policies : List Policy)
    (c : EvaluationContext) (cancel : Cancellation) (before : Nat) :
    Dependency × Nat → m (Dependency × Turn) := fun (d, position) => do
  let s ← (get : Gate GateState)
  if cancel position (s.events.drop before) then return (d, .cancelled)
  let ending ←
    try evaluateAndAct others policies c d
    catch f => skip evaluationId tenantId d f
  return (d, ending)

def evaluationsOf (turns : List (Dependency × Turn)) : List Evaluation :=
  turns.filterMap fun
    | (_, .evaluated e _) => some e
    | _ => none

/-- The executed actions of a run. -/
def executedOf (turns : List (Dependency × Turn)) : List ExecutedAction :=
  turns.flatMap fun
    | (_, .evaluated _ executed) => executed
    | _ => []

def errorsOf (turns : List (Dependency × Turn)) : List (Scalar × Value) :=
  turns.foldl (fun errors (d, t) =>
    match t with
    | .skipped error => Value.insert (.str d.ident) (.str error) errors
    | _ => errors) []

/-- How many turns of a run were cancelled. -/
def cancelledOf (turns : List (Dependency × Turn)) : Nat :=
  turns.countP fun
    | (_, .cancelled) => true
    | _ => false

def countUnder (key : Scalar) (counts : List (Scalar × Value)) : Reading (List (Scalar × Value)) := do
  return Value.insert key (← ((findEntry key counts).getD (.int 0)).add (.int 1)) counts

/-- One more finding in the totals. -/
def addToSummary (s : EnforcementSummary) (v : Violation) : Reading EnforcementSummary := do
  let severity ← v.severity.part "value"
  let severityBreakdown ← countUnder (.str severity.toText) s.severityBreakdown
  let policyBreakdown ← countUnder (← v.policyId.asScalar) s.policyBreakdown
  return { s with severityBreakdown, policyBreakdown }

/-- The totals of a run. -/
def summarize (policies : List Policy) (evaluations : List Evaluation)
    (executed : List ExecutedAction) : Reading EnforcementSummary := do
  let start : EnforcementSummary := {
    policiesEvaluated := .int policies.length
    rulesEvaluated := ← Value.sum (evaluations.map (·.rulesEvaluated))
    violationsDetected := .int (evaluations.flatMap (·.violations)).length
    actionsExecuted := .int executed.length
    blockedDependencies := .int (evaluations.countP Evaluation.isBlocked)
    severityBreakdown := EnforcementSummary.noSeverities
    policyBreakdown := [] }
  (evaluations.flatMap Evaluation.findings).foldlM addToSummary start

def countStatus (status : EvaluationStatus) (evaluations : List Evaluation) : Value :=
  .int (evaluations.countP (·.status == status))

/-- The result of a run whose turns have been taken; it is kept. -/
def conclude (evaluationId tenantId : Value) (active : List Policy) (start : Timestamp)
    (dependencies : List Dependency) (turns : List (Dependency × Turn)) : Gate EnforcementResult := do
  let evaluations := evaluationsOf turns
  let executed := executedOf turns
  let errors := errorsOf turns
  let finish ← clock
  let summary ← summarize active evaluations executed
  let result : EnforcementResult := {
    evaluationId
    tenantId
    total := .int dependencies.length
    evaluated := .int evaluations.length
    skipped := .int errors.length
    cancelled := .int (cancelledOf turns)
    compliant := countStatus .compliant evaluations
    violating := countStatus .violation evaluations
    warning := countStatus .warning evaluations
    evaluations
    executedActions := executed
    summary
    startTime := some start
    endTime := some finish
    duration := .float 0.0
    errors }
  keep .evaluations result
  return result

def runTurns (others : Collaborators) (evaluationId tenantId : Value) (policies : List Policy)
    (c : EvaluationContext) (cancel : Cancellation) (before : Nat) (start : Timestamp)
    (dependencies : List Dependency) : Gate EnforcementResult := do
  let active ← Policy.active (policies.filter (·.tenantId.same tenantId))
  let turns ← takeAll (turn others evaluationId tenantId active c cancel before) dependencies.zipIdx
  conclude evaluationId tenantId active start dependencies turns

/-- Tell that a run over so many dependencies begins, and how it ends. -/
def telling (evaluationId tenantId : Value) (count : Nat) (run : m EnforcementResult) :
    m EnforcementResult := do
  publish (.evaluationStarted evaluationId tenantId count)
  let result ←
    try run
    catch f =>
      publish (.evaluationFailed evaluationId tenantId f.message)
      throw f
  publish (.evaluationCompleted evaluationId tenantId result.summary.violationsDetected
    result.summary.blockedDependencies result.skipped)
  return result

/-- Evaluate a batch of dependencies against the policies of a tenant among some policies. -/
def evaluateAll (others : Collaborators) (dependencies : List Dependency) (tenantId : Value)
    (policies : List Policy) (c : EvaluationContext) (cancel : Cancellation) :
    Gate EnforcementResult := do
  let evaluationId ← fresh .evaluation
  let start ← clock
  let before := (← get).events.length
  telling evaluationId tenantId dependencies.length
    (runTurns others evaluationId tenantId policies c cancel before start dependencies)

end Gate
end SupplyGate
