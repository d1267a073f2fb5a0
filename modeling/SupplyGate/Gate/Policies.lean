import SupplyGate.Gate.State
import SupplyGate.Policy.Template
import SupplyGate.Policy.Update
import SupplyGate.Policy.Validation
import SupplyGate.Policy.Version
/-!
Policies of tenants: creating, applying, updating and deleting them, and granting and revoking
exceptions. Only policies without problems are stored, and an update stores a new version of a
policy under its id.
-/
namespace SupplyGate

/-- A policy to be stored: a document of one, or a policy. -/
inductive PolicySource where
  | document (doc : Value)
  | record (p : Policy)

def PolicySource.policy (now : Timestamp) : PolicySource → Reading Policy
  | .record p => .ok p
  | .document (.map entries) => Policy.ofDoc now (.map entries)
  | .document v => .error (.noPart v.qualifiedKind "name")

namespace Gate

def withRuleId (r : Rule) : Gate Rule := do return { r with id := ← orFresh .rule r.id }

/-- Validate a policy and store it for a tenant, with ids where it has none. -/
def enterPolicy (tenantId : Value) (source : PolicySource) (createdBy : Value) : Gate Policy := do
  let now ← clock
  let p ← source.policy now
  Validation.check p
  let id ← orFresh .policy p.id
  let rules ← p.rules.mapM withRuleId
  let stored := { p with id, tenantId, rules, createdAt := now, updatedAt := now, createdBy }
  add .policies stored
  return stored

def createPolicy (tenantId : Value) (source : PolicySource) (createdBy : Value) : Gate Policy := do
  let stored ← enterPolicy tenantId source createdBy
  logValues [stored.id, stored.name, tenantId]
  publish (.policyCreated tenantId stored)
  return stored

/-! ## Templates -/

def getTemplate (templateId : Value) : Gate Template := do
  discard templateId.asScalar
  match Template.find? templateId with
  | some t => return t
  | none => throw (.naming (.notFound .template) templateId)

/-- A rule of a template for a policy: with the edits for its name, and a fresh id. -/
def templateRule (edits : List (String × List RuleEdit)) (r : Rule) : Gate Rule := do
  let id ← fresh .rule
  let r ← RuleEdit.applyAll r ((edits.lookup r.name.rendered).getD [])
  return { r with id }

/-- Days until a policy made from a template is reviewed. -/
def templateReviewDays : Int := 90

/-- The metadata of a policy made from a template. -/
def templateMetadata (t : Template) (now next : Timestamp) (createdBy : Value) : PolicyMetadata where
  owner := createdBy
  framework := t.framework
  regulation := .null
  tags := t.tags.map .str
  reviewers := [createdBy]
  lastReview := some now
  nextReview := some next
  changeLog := [{
    version := "1.0.0"
    date := some now
    author := createdBy
    description := .str ("Created from template: " ++ t.name)
    changes := ["Initial policy creation"] }]

/-- What may be chosen about a policy made from a template. -/
structure TemplateChoice where
  name : Value
  scope : Option PolicyScope
  edits : List (String × List RuleEdit)
  policyId : Value

/-- Nothing is chosen. -/
def TemplateChoice.standard : TemplateChoice := ⟨.null, none, [], .null⟩

def draftFromTemplate (tenantId templateId : Value) (choice : TemplateChoice) (createdBy : Value) :
    Gate Policy := do
  let t ← getTemplate templateId
  let now ← clock
  let rules ← t.rules.mapM (templateRule choice.edits)
  let id ← orFresh .policy choice.policyId
  let next ← match now.addDays? templateReviewDays with
    | some next => pure next
    | none => throw .calendarRange
  return {
    id
    tenantId
    name := choice.name.orElse t.name
    description := t.description
    version := "1.0.0"
    enabled := .bool true
    priority := .int 100
    scope := .held (choice.scope.getD t.defaultScope)
    rules
    enforcement := .held .standard
    exceptions := .held []
    metadata := templateMetadata t now next createdBy
    createdAt := now
    updatedAt := now
    createdBy := "system"
    approvedBy := .null
    approvedAt := .null }

def createFromTemplate (tenantId templateId : Value) (choice : TemplateChoice) (createdBy : Value) :
    Gate Policy := do
  let p ← draftFromTemplate tenantId templateId choice createdBy
  let stored ← createPolicy tenantId (.record p) createdBy
  publish (.policyCreatedFromTemplate tenantId templateId stored.id)
  return stored

/-- The id of the policy that a tenant gets from a template once. -/
def templatePolicyId (tenantId templateId : Value) : Reading Value := do
  return .str ("policy_" ++ (← templateId.text) ++ "_" ++ (← tenantId.text))

/-- The policy that a tenant has from a template, created if there is none. -/
def ensureTemplate (tenantId templateId createdBy : Value) : Gate Policy := do
  let id ← templatePolicyId tenantId templateId
  match ← find .policies id with
  | some p => return p
  | none =>
    createFromTemplate tenantId templateId { TemplateChoice.standard with policyId := id } createdBy

/-! ## Looking up -/

def getPolicy (policyId : Value) : Gate Policy := do
  match ← find .policies policyId with
  | some p => return p
  | none => throw (.naming (.notFound .policy) policyId)

/-- The policies of a tenant, those of the highest priority first. -/
def policiesOf (tenantId : Value) : Gate (List Policy) := do
  sortDescending (·.priority) (← ofTenant .policies tenantId)

/-! ## Updates -/

/-- The id that a rule keeps: its own, or that of a current rule with its name, or a fresh one. -/
def keptRuleId (current : List Rule) (r : Rule) : Gate Value := do
  if r.id.truthy then return r.id
  discard r.name.asScalar
  match current.reverse.find? fun c => c.name.same r.name with
  | some c => orFresh .rule c.id
  | none => fresh .rule

/-- The rules of an update, each with an id. -/
def identified (current : List Rule) (rules : List (Loose Rule)) : Gate (List Rule) :=
  rules.mapM fun r => do
    let r ← r.part "id"
    return { r with id := ← keptRuleId current r }

/-- The rules of an update, if they differ from the current ones. -/
def changedRules (current : List Rule) : Option (List (Loose Rule)) → Gate (Option (List Rule))
  | none => pure none
  | some rules => do
    discard (current.mapM (·.name.asScalar))
    let rules ← identified current rules
    let after ← rules.mapM fun r => ofReading r.toDoc
    let before ← current.mapM fun r => ofReading r.toDoc
    return if Value.sameItems after before then none else some rules

/-- The policy with changed rules: its version is raised, and its change log tells of it. -/
def withRules (p : Policy) (rules : List Rule) (now : Timestamp) (updatedBy : Value) :
    Reading Policy := do
  let version := Value.str (← Version.bump p.version)
  let change : PolicyChange := {
    version
    date := some now
    author := updatedBy
    description := "Policy rules updated"
    changes := ["Rules modified"] }
  return { p with
    rules, version
    metadata := { p.metadata with changeLog := p.metadata.changeLog ++ [change] } }

/-- Metadata of an update, which keeps the change log. -/
def withMetadata (p : Policy) : Option (Loose PolicyMetadata) → Reading Policy
  | none => .ok p
  | some (.held m) => .ok { p with metadata := { m with changeLog := p.metadata.changeLog } }
  | some (.raw _) => .error (.kind (.fields "replace() should be called on dataclass instances"))

def updated (p : Policy) (update : PolicyUpdate) (now : Timestamp) (updatedBy : Value) :
    Gate Policy := do
  let rules ← changedRules p.rules update.rules
  let raised ← match rules with
    | none => pure p
    | some rules => ofReading (withRules p rules now updatedBy)
  let described ← withMetadata raised update.metadata
  let edited ← ofReading (update.edits.foldlM PolicyEdit.apply described)
  let version := if rules.isSome then raised.version else edited.version
  return { edited with version, updatedAt := now }

/-- Store a new version of a policy. The update is read once the policy is found. -/
def renewPolicy (policyId : Value) (update : Reading PolicyUpdate) (updatedBy : Value) :
    Gate Policy := do
  let current ← getPolicy policyId
  let update ← update
  let now ← clock
  let next ← updated current update now updatedBy
  Validation.check next
  keep .policies next
  return next

def updateWith (policyId : Value) (update : Reading PolicyUpdate) (updatedBy : Value) :
    Gate Policy := do
  let next ← renewPolicy policyId update updatedBy
  logValues [policyId, next.version]
  publish (.policyUpdated next.tenantId policyId next.version updatedBy)
  return next

/-- Update a policy by a document of its changes. -/
def updatePolicy (policyId updates updatedBy : Value) : Gate Policy :=
  updateWith policyId (PolicyUpdate.ofDoc updates) updatedBy

/-- The stored policy that a policy describes: by its id, or by its name within the tenant. -/
def described (tenantId : Value) (p : Policy) : Gate (Option Policy) := do
  if p.id.truthy then find .policies p.id
  else return (← ofTenant .policies tenantId).find? fun q => q.name.same p.name

/-- Create a policy, or update the stored one that it describes. -/
def applyPolicy (tenantId : Value) (source : PolicySource) (appliedBy : Value) : Gate Policy := do
  let p ← source.policy (← clock)
  match ← described tenantId p with
  | none => createPolicy tenantId (.record p) appliedBy
  | some existing =>
    if existing.tenantId.same tenantId then
      updateWith existing.id (.ok (.ofPolicy p)) appliedBy
    else throw (.naming .foreignPolicy existing.id)

/-- Take a policy out. -/
def dropPolicy (policyId : Value) : Gate Policy := do
  let p ← getPolicy policyId
  remove .policies policyId
  return p

def deletePolicy (policyId : Value) : Gate Unit := do
  let p ← dropPolicy policyId
  logValues [policyId]
  publish (.policyDeleted p.tenantId policyId)

/-! ## Exceptions -/

def moreExceptions (p : Policy) (e : PolicyException) :
    Reading (Loose (List (Loose PolicyException))) :=
  match p.exceptions with
  | .held es => .ok (.held (es ++ [.held e]))
  | .raw v => .error (.kind (.operands "+" v.qualifiedKind "list"))

/-- Store an exception from a rule with its policy. -/
def enterException (policyId : Value) (e : PolicyException) : Gate (Policy × PolicyException) := do
  let p ← getPolicy policyId
  if (p.rule? e.ruleId).isNone then
    let text := "Rule " ++ (← e.ruleId.text) ++ " not found in policy " ++ (← policyId.text)
    throw (.invalidPolicy text [text])
  let granted := { e with id := ← orFresh .exception e.id }
  let exceptions ← moreExceptions p granted
  keep .policies { p with exceptions, updatedAt := ← clock }
  return (p, granted)

def addException (policyId : Value) (e : PolicyException) : Gate PolicyException := do
  let (p, granted) ← enterException policyId e
  logValues [granted.id, granted.dependency, policyId]
  publish (.exceptionAdded p.tenantId policyId granted)
  return granted

/-- The first of some exceptions with an id. -/
def exceptionWithId (id : Value) : List (Loose PolicyException) → Reading (Option PolicyException)
  | [] => .ok none
  | e :: rest => do
    let e ← e.part "id"
    if e.id.same id then return some e
    exceptionWithId id rest

def revokeException (policyId exceptionId revokedBy : Value) : Gate PolicyException := do
  let p ← getPolicy policyId
  let es ← p.exceptionList
  match ← exceptionWithId exceptionId es with
  | none => throw (.naming (.notFound .exception) exceptionId)
  | some e => do
    let revoked := { e with status := .revoked }
    let exceptions ← ofReading (es.mapM fun l => do
      let l ← l.part "id"
      return Loose.held (if l.id.same exceptionId then revoked else l))
    keep .policies { p with exceptions := .held exceptions, updatedAt := ← clock }
    publish (.exceptionRevoked p.tenantId policyId exceptionId revokedBy)
    return revoked

/-- An exception, expired if it has lapsed. -/
def expireOne (now : Timestamp) (e : Loose PolicyException) :
    Reading (Bool × Loose PolicyException) := do
  let e ← e.part "status"
  if ← e.isLapsed now then return (true, .held { e with status := .expired })
  return (false, .held e)

/-- Expire the lapsed exceptions of a policy, and count them. -/
def expireIn (now : Timestamp) (p : Policy) : Gate Nat := do
  let es ← p.exceptionList
  let outcomes ← ofReading (es.mapM (expireOne now))
  let count := outcomes.countP (·.1)
  if 0 < count then keep .policies { p with exceptions := .held (outcomes.map (·.2)) }
  return count

/-- Expire all lapsed exceptions, and count them. -/
def expireExceptions (now : Option Timestamp) : Gate Nat := do
  let now := now.getD (← clock)
  return (← (← all .policies).mapM (expireIn now)).foldl (· + ·) 0

end Gate
end SupplyGate
