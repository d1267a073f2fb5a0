import SupplyGate.Gate.State
/-!
Enforcement actions. Every enabled action of a violation's rule is carried out on its own: one that
fails is recorded as failed, and the others still run. Notifications and issues may go to a
collaborator outside, which may fail or not answer in time.
-/
namespace SupplyGate

/-- What a collaborator answers to a call. -/
inductive Reply (α : Type) where
  | done (a : α)
  | failed (text kind : String)
  | late

/-- The collaborators of a gate, each by its answer to the call with a number, and the time they
have to answer. -/
structure Collaborators where
  notifier : Option (Nat → Reply Unit)
  tracker : Option (Nat → Reply Value)
  timeout : Value

namespace Collaborators

def none : Collaborators := ⟨.none, .none, .float 10.0⟩

end Collaborators

/-- What a collaborator's answer gives. -/
def Reply.outcome {α : Type} : Reply α → Reading α
  | .done a => .ok a
  | .failed text kind => .error (.collaborator text kind)
  | .late => .error .timedOut

namespace CollaboratorCall

def isNotify : CollaboratorCall → Bool
  | .notify .. => true
  | .createIssue .. => false

end CollaboratorCall

namespace Gate

variable {m : Type → Type} [Monad m] [MonadExceptOf Fault m] [MonadLiftT Gate m]

def logLevels : List String := ["DEBUG", "INFO", "WARN", "WARNING", "ERROR"]

/-- A configured text in upper case, or a default. -/
def configuredText (v : Value) (default : String) : Reading String :=
  match v.orElse (.str default) with
  | .str s => .ok (Text.upper s)
  | w => .error (.noPart w.qualifiedKind "upper")

def strategyOf (tenantId : Value) : Gate UpdateStrategy := do
  return (← find .strategies tenantId).getD (.standard tenantId)

/-- Block the dependency. -/
def block (config : ActionConfig) (v : Violation) : Gate Value := do
  let message := config.blockingMessage.orElse "Policy violation"
  publish (.dependencyBlocked v message)
  return .fields [("blocked", .bool true), ("message", message)]

/-- Warn about the dependency. -/
def warn (config : ActionConfig) (v : Violation) : Gate Value := do
  let message := config.warningMessage.orElse "Policy violation detected"
  publish (.dependencyWarned v message)
  return .fields [("warned", .bool true), ("message", message)]

def log (config : ActionConfig) (v : Violation) : Gate Value := do
  let level ← configuredText config.logLevel "WARN"
  if !logLevels.contains level then throw (.naming (.action <| "Invalid log level: " ++ ·) config.logLevel)
  let message := "Policy violation: " ++ (← v.message.text)
  publish (.violationLogged v.tenantId v.id level message)
  return .fields [("logged", .bool true), ("level", level), ("message", message)]

/-- Ask the notifier to notify the recipients, and how it answers: whether they are told. The event is
published before. -/
def askNotifier (others : Collaborators) (config : ActionConfig) (v : Violation) :
    Gate (Reading Bool) := do
  publish (.notificationSent v config.channels config.recipients)
  match others.notifier with
  | none => return .ok false
  | some reply => do
    noteCall (.notify config.channels config.recipients v.id)
    let answer := reply ((← get).calls.filter CollaboratorCall.isNotify).length
    return do answer.outcome; return true

def notified (config : ActionConfig) (delivered : Bool) : Value := .fields [
  ("notified", .bool true),
  ("channels", .int config.channels.length),
  ("recipients", .int config.recipients.length),
  ("delivered", .bool delivered)]

def notify (others : Collaborators) (config : ActionConfig) (v : Violation) : m Value := do
  let answer ← askNotifier others config v
  return notified config (← ofReading answer)

/-- Trigger a fix, which needs approval unless a rule of the tenant lets it proceed. -/
def autoFix (config : ActionConfig) (v : Violation) (c : EvaluationContext) : Gate Value := do
  let strategy ← configuredText config.autoFixStrategy "UPDATE"
  let rules := (← strategyOf v.tenantId).approvalRules
  let approving ← ApprovalRule.firstApproving strategy v.dependency c rules
  publish (.autoFixTriggered v strategy approving.isNone)
  return .fields [
    ("auto_fix_triggered", .bool true),
    ("strategy", strategy),
    ("requires_approval", .bool approving.isNone),
    ("approved_by_rule", (approving.map fun r => Scale.value r.condition).getD .null)]

def issueOf (tracker : IssueTracker) (v : Violation) : Reading Value := do
  return .fields [
    ("title", .str ("Policy Violation: " ++ (← v.dependency.name.text))),
    ("description", v.message),
    ("issue_type", tracker.issueType),
    ("priority", tracker.priority),
    ("labels", .list tracker.labels),
    ("assignee", tracker.assignee)]

/-- Ask the tracker to open an issue, and how it answers: the key of the issue. -/
def askTracker (others : Collaborators) (tracker : IssueTracker) (issue : Value) :
    Gate (Reading Value) := do
  match others.tracker with
  | none => return .ok .null
  | some reply => do
    noteCall (.createIssue tracker issue)
    return (reply ((← get).calls.filter (!·.isNotify)).length).outcome

/-- Tell of an issue that was opened. -/
def tellIssue (tracker : IssueTracker) (v : Violation) (issue issueKey : Value) : Gate Value := do
  publish (.issueCreated v tracker.system tracker.project issue issueKey)
  return .fields [
    ("issue_created", .bool true), ("tracker", tracker.system), ("issue_key", issueKey)]

/-- Open an issue; the event is published after the tracker has answered. -/
def createIssue (others : Collaborators) (config : ActionConfig) (v : Violation) : m Value := do
  match config.issueTracker with
  | none => throw (.action "Issue tracker configuration is required for CREATE_ISSUE action")
  | some tracker => do
    let issue ← ofReading (issueOf tracker v)
    let answer ← askTracker others tracker issue
    tellIssue tracker v issue (← ofReading answer)

def escalate (config : ActionConfig) (v : Violation) : Gate Value := do
  let level := config.escalationLevel.orElse (.int 1)
  publish (.escalated v level (← clock))
  return .fields [("escalated", .bool true), ("level", level)]

/-- Carry out an action for a violation. -/
def perform (others : Collaborators) (v : Violation) (c : EvaluationContext) (a : RuleAction) :
    m Value :=
  match Scale.ofText? a.type with
  | some ActionType.block => block a.config v
  | some ActionType.warn => warn a.config v
  | some ActionType.log => log a.config v
  | some ActionType.notify => notify others a.config v
  | some ActionType.autoFix => autoFix a.config v c
  | some ActionType.createIssue => createIssue others a.config v
  | some ActionType.escalate => escalate a.config v
  | none => throw (.action ("Unknown action type: " ++ a.type))

/-- What is recorded about a fault of an action. -/
def failureText (others : Collaborators) (a : RuleAction) : Fault → String
  | .timedOut => a.type ++ " action timed out after " ++ others.timeout.rendered ++ "s"
  | .collaborator "" kind => kind
  | f => f.message

/-- The record of an action that was carried out, or failed. -/
def actionRecord (v : Violation) (a : RuleAction) (now : Timestamp) (status : ActionStatus)
    (result error : Value) : ExecutedAction where
  violationId := v.id
  type := .str a.type
  status
  result
  error
  executedAt := some now
  duration := .float 0.0

/-- Carry out an action and record how it ended. -/
def runAction (others : Collaborators) (v : Violation) (c : EvaluationContext) (a : RuleAction) :
    m ExecutedAction := do
  try
    let result ← perform others v c a
    pure (actionRecord v a (← clock) .success result .null)
  catch f =>
    pure (actionRecord v a (← clock) .failed .null (.str (failureText others a f)))

/-- Carry out the enabled actions of a violation's rule, in order. -/
def execute (others : Collaborators) (c : EvaluationContext) (v : Violation) :
    m (List ExecutedAction) :=
  v.details.rule.enabledActions.mapM (runAction others v c)

end Gate
end SupplyGate
