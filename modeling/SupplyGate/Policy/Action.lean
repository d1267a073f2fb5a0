import SupplyGate.Value.Read
/-!
Rule actions: what happens when a rule triggers, and the configuration of it. A document may leave
out every part of a configuration, and one that says nothing is written as an empty map.
-/
namespace SupplyGate

inductive ActionType where
  | block
  | warn
  | log
  | notify
  | autoFix
  | createIssue
  | escalate
  deriving DecidableEq, Repr

def ActionType.toText : ActionType → String
  | .block => "BLOCK"
  | .warn => "WARN"
  | .log => "LOG"
  | .notify => "NOTIFY"
  | .autoFix => "AUTO_FIX"
  | .createIssue => "CREATE_ISSUE"
  | .escalate => "ESCALATE"

instance : Scale ActionType :=
  ⟨"ActionType", [.block, .warn, .log, .notify, .autoFix, .createIssue, .escalate],
    ActionType.toText⟩

/-- Where and how issues are opened. -/
structure IssueTracker where
  system : Value
  project : Value
  issueType : Value
  priority : Value
  assignee : Value
  labels : List Value

namespace IssueTracker

def toDoc (t : IssueTracker) : Value :=
  .fields [
    ("system", t.system),
    ("project", t.project),
    ("issue_type", t.issueType),
    ("priority", t.priority),
    ("assignee", t.assignee),
    ("labels", .list t.labels)]

/-- The issue tracker that a document describes. -/
def ofDoc (doc : Value) : Reading IssueTracker := do
  let system ← doc.item "system"
  let project ← doc.item "project"
  let issueType ← doc.field "issue_type" "Bug"
  let priority ← doc.field "priority" "Medium"
  let assignee ← doc.field "assignee"
  let labels ← (← doc.field "labels").asListOrEmpty
  return { system, project, issueType, priority, assignee, labels }

end IssueTracker

/-- How an action is carried out. -/
structure ActionConfig where
  blockingMessage : Value
  warningMessage : Value
  logLevel : Value
  channels : List Value
  recipients : List Value
  escalationLevel : Value
  autoFixStrategy : Value
  issueTracker : Option IssueTracker

namespace ActionConfig

/-- A configuration that says nothing. -/
def empty : ActionConfig where
  blockingMessage := .null
  warningMessage := .null
  logLevel := .null
  channels := []
  recipients := []
  escalationLevel := .null
  autoFixStrategy := .null
  issueTracker := none

/-- A value that says nothing: null or an empty list. -/
def isGiven : Value → Bool
  | .null => false
  | .list [] => false
  | _ => true

/-- The document of a configuration: entries that say nothing are left out. -/
def toDoc (c : ActionConfig) : Value :=
  .fields ([
    ("blocking_message", c.blockingMessage),
    ("warning_message", c.warningMessage),
    ("log_level", c.logLevel),
    ("notification_channels", .list c.channels),
    ("recipients", .list c.recipients),
    ("escalation_level", c.escalationLevel),
    ("auto_fix_strategy", c.autoFixStrategy),
    ("issue_tracker", (c.issueTracker.map IssueTracker.toDoc).getD .null)].filter
      fun (_, v) => isGiven v)

/-- The configuration that a document describes. -/
def ofDoc (doc : Value) : Reading ActionConfig := do
  let doc := doc.orElse (.map [])
  let tracker ← doc.field "issue_tracker"
  let blockingMessage ← doc.field "blocking_message"
  let warningMessage ← doc.field "warning_message"
  let logLevel ← doc.field "log_level"
  let channels ← (← doc.field "notification_channels").asListOrEmpty
  let recipients ← (← doc.field "recipients").asListOrEmpty
  let escalationLevel ← doc.field "escalation_level"
  let autoFixStrategy ← doc.field "auto_fix_strategy"
  let issueTracker ← if tracker.truthy then some <$> IssueTracker.ofDoc tracker else pure none
  return {
    blockingMessage, warningMessage, logLevel, channels, recipients, escalationLevel
    autoFixStrategy, issueTracker }

end ActionConfig

/-- An action of a rule. Its type is any text in upper case. -/
structure RuleAction where
  type : String
  config : ActionConfig
  enabled : Value

namespace RuleAction

def toDoc (a : RuleAction) : Value :=
  .fields [("type", .str a.type), ("config", a.config.toDoc), ("enabled", a.enabled)]

/-- The action that a document describes. -/
def ofDoc (doc : Value) : Reading RuleAction := do
  let type ← (← doc.field "type" "").upperText
  let config ← ActionConfig.ofDoc (← doc.field "config")
  let enabled ← doc.field "enabled" (.bool true)
  return { type, config, enabled }

def of (type : ActionType) (config : ActionConfig) : RuleAction :=
  ⟨type.toText, config, .bool true⟩

end RuleAction
end SupplyGate
