import SupplyGate.Policy.Exception
import SupplyGate.Policy.Rule
/-!
Policies: what a tenant's dependencies are checked against. A policy is replaced as a whole and
never edited in place. Its scope, enforcement and exceptions can be set to any value by an update.
-/
namespace SupplyGate

/-- Which dependencies a policy applies to; an empty list admits everything. -/
structure PolicyScope where
  environments : List Value
  projects : List Value
  ecosystems : List Value
  dependencyTypes : List Value
  scopes : List Value

namespace PolicyScope

def everything : PolicyScope := ⟨[], [], [], [], []⟩

/-- The document of a scope. -/
def toDoc (s : PolicyScope) : Value :=
  .fields [
    ("environments", .list s.environments),
    ("projects", .list s.projects),
    ("ecosystems", .list s.ecosystems),
    ("dependency_types", .list s.dependencyTypes),
    ("scopes", .list s.scopes)]

/-- The scope that a document describes. -/
def ofDoc (doc : Value) : Reading PolicyScope := do
  let doc := doc.orElse (.map [])
  let environments ← (← doc.field "environments").asListOrEmpty
  let projects ← (← doc.field "projects").asListOrEmpty
  let ecosystems ← (← doc.field "ecosystems").asListOrEmpty
  let dependencyTypes ← (← doc.field "dependency_types").asListOrEmpty
  let scopes ← (← doc.field "scopes").asListOrEmpty
  return { environments, projects, ecosystems, dependencyTypes, scopes }

end PolicyScope

/-- Whether a policy takes effect. -/
inductive EnforcementMode where
  | enforcing
  | permissive
  | disabled
  deriving DecidableEq, Repr

def EnforcementMode.toText : EnforcementMode → String
  | .enforcing => "ENFORCING"
  | .permissive => "PERMISSIVE"
  | .disabled => "DISABLED"

instance : Scale EnforcementMode :=
  ⟨"EnforcementMode", [.enforcing, .permissive, .disabled], EnforcementMode.toText⟩

/-- How a policy is enforced. -/
structure Enforcement where
  mode : EnforcementMode
  continueOnError : Value
  parallel : Value
  timeout : Value
  retryAttempts : Value

namespace Enforcement

def standard : Enforcement := ⟨.enforcing, .bool false, .bool true, .int 300, .int 2⟩

def toDoc (e : Enforcement) : Value :=
  .fields [
    ("mode", Scale.value e.mode),
    ("continue_on_error", e.continueOnError),
    ("parallel", e.parallel),
    ("timeout", e.timeout),
    ("retry_attempts", e.retryAttempts)]

/-- The enforcement that a document describes. -/
def ofDoc (doc : Value) : Reading Enforcement := do
  let doc := doc.orElse (.map [])
  let mode ← Scale.readUpper (← doc.field "mode" "ENFORCING")
  let continueOnError ← doc.field "continue_on_error" (.bool false)
  let parallel ← doc.field "parallel" (.bool true)
  let timeout ← doc.field "timeout" (.int 300)
  let retryAttempts ← doc.field "retry_attempts" (.int 2)
  return { mode, continueOnError, parallel, timeout, retryAttempts }

end Enforcement

/-- An entry of a change log. -/
structure PolicyChange where
  version : Value
  date : Option Timestamp
  author : Value
  description : Value
  changes : List Value

namespace PolicyChange

def toDoc (c : PolicyChange) : Value :=
  .fields [
    ("version", c.version),
    ("date", Timestamp.toDoc c.date),
    ("author", c.author),
    ("description", c.description),
    ("changes", .list c.changes)]

/-- The change that a document describes. -/
def ofDoc (doc : Value) : Reading PolicyChange := do
  let version ← doc.item "version"
  let date ← (← doc.item "date").asTimestamp
  let author ← doc.field "author" ""
  let description ← doc.field "description" ""
  let changes ← (← doc.field "changes").asListOrEmpty
  return { version, date, author, description, changes }

end PolicyChange

/-- Who answers for a policy, and how it changed. -/
structure PolicyMetadata where
  owner : Value
  framework : Value
  regulation : Value
  tags : List Value
  reviewers : List Value
  lastReview : Option Timestamp
  nextReview : Option Timestamp
  changeLog : List PolicyChange

namespace PolicyMetadata

def toDoc (m : PolicyMetadata) : Value :=
  .fields [
    ("owner", m.owner),
    ("framework", m.framework),
    ("regulation", m.regulation),
    ("tags", .list m.tags),
    ("reviewers", .list m.reviewers),
    ("last_review", Timestamp.toDoc m.lastReview),
    ("next_review", Timestamp.toDoc m.nextReview),
    ("change_log", .ofRecords PolicyChange.toDoc m.changeLog)]

/-- The policy metadata that a document describes. -/
def ofDoc (doc : Value) : Reading PolicyMetadata := do
  let doc := doc.orElse (.map [])
  let owner ← doc.field "owner" ""
  let framework ← doc.field "framework"
  let regulation ← doc.field "regulation"
  let tags ← (← doc.field "tags").asListOrEmpty
  let reviewers ← (← doc.field "reviewers").asListOrEmpty
  let lastReview ← (← doc.field "last_review").asTimestamp
  let nextReview ← (← doc.field "next_review").asTimestamp
  let changeLog ← (← doc.field "change_log").asRecordsOrEmpty PolicyChange.ofDoc
  return { owner, framework, regulation, tags, reviewers, lastReview, nextReview, changeLog }

end PolicyMetadata

/-- A tenant's policy. -/
structure Policy where
  id : Value
  tenantId : Value
  name : Value
  description : Value
  version : Value
  enabled : Value
  priority : Value
  scope : Loose PolicyScope
  rules : List Rule
  enforcement : Loose Enforcement
  exceptions : Loose (List (Loose PolicyException))
  metadata : PolicyMetadata
  createdAt : Timestamp
  updatedAt : Timestamp
  createdBy : Value
  approvedBy : Value
  approvedAt : Value

namespace Policy

/-- The exceptions of a policy, which a loop over them needs. -/
def exceptionList (p : Policy) : Reading (List (Loose PolicyException)) :=
  match p.exceptions with
  | .held es => .ok es
  | .raw v => do return (← v.asList).map Loose.raw

/-- The rule with an id, the first of several. -/
def rule? (p : Policy) (id : Value) : Option Rule := p.rules.find? fun r => r.id.same id

/-- An optional timestamp that an update may have replaced. -/
def looseTimeDoc (v : Value) : Reading Value :=
  match v with
  | .time t => .ok (.str t.format)
  | .date d => .ok (.str d.format)
  | v => if v.truthy then .error (.noPart v.qualifiedKind "isoformat") else .ok .null

def toDoc (p : Policy) : Reading Value := do
  let scope ← p.scope.part "to_dict"
  let rules ← p.rules.mapM Rule.toDoc
  let enforcement ← p.enforcement.part "to_dict"
  let exceptions ← (← p.exceptionList).mapM fun e => PolicyException.toDoc <$> e.part "to_dict"
  let approvedAt ← looseTimeDoc p.approvedAt
  return .fields [
    ("id", p.id),
    ("tenant_id", p.tenantId),
    ("name", p.name),
    ("description", p.description),
    ("version", p.version),
    ("enabled", p.enabled),
    ("priority", p.priority),
    ("scope", scope.toDoc),
    ("rules", .list rules),
    ("enforcement", enforcement.toDoc),
    ("exceptions", .list exceptions),
    ("metadata", p.metadata.toDoc),
    ("created_at", .str p.createdAt.format),
    ("updated_at", .str p.updatedAt.format),
    ("created_by", p.createdBy),
    ("approved_by", p.approvedBy),
    ("approved_at", approvedAt)]

/-- The policy that a document describes; it is created and updated now unless the document says
when. -/
def ofDoc (now : Timestamp) (doc : Value) : Reading Policy := do
  let id ← doc.field "id" ""
  let tenantId ← doc.field "tenant_id" ""
  let name ← doc.field "name" ""
  let description ← doc.field "description" ""
  let version ← (← doc.field "version" "1.0.0").text
  let enabled ← doc.field "enabled" (.bool true)
  let priority ← doc.field "priority" (.int 100)
  let scope ← PolicyScope.ofDoc (← doc.field "scope")
  let rules ← (← doc.field "rules").asRecordsOrEmpty Rule.ofDoc
  let enforcement ← Enforcement.ofDoc (← doc.field "enforcement")
  let exceptions ← (← doc.field "exceptions").asRecordsOrEmpty (PolicyException.ofDoc now)
  let metadata ← PolicyMetadata.ofDoc (← doc.field "metadata")
  let createdAt := (← (← doc.field "created_at").asTimestamp).getD now
  let updatedAt := (← (← doc.field "updated_at").asTimestamp).getD now
  let createdBy ← doc.field "created_by" "system"
  let approvedBy ← doc.field "approved_by"
  let approvedAt ← (← doc.field "approved_at").asTimestamp
  return {
    id, tenantId, name, description, version := .str version, enabled, priority, scope := .held scope, rules
    enforcement := .held enforcement, exceptions := .held (exceptions.map .held), metadata
    createdAt, updatedAt, createdBy, approvedBy
    approvedAt := (approvedAt.map Value.time).getD .null }

end Policy
end SupplyGate
