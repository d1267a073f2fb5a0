import SupplyGate.Value.Arithmetic
/-!
Policy exceptions: an approved override of one rule for one package name, until it expires or is
revoked.
-/
namespace SupplyGate

inductive ExceptionStatus where
  | active
  | expired
  | revoked
  deriving DecidableEq, Repr

def ExceptionStatus.toText : ExceptionStatus → String
  | .active => "ACTIVE"
  | .expired => "EXPIRED"
  | .revoked => "REVOKED"

instance : Scale ExceptionStatus :=
  ⟨"ExceptionStatus", [.active, .expired, .revoked], ExceptionStatus.toText⟩

structure ReviewSchedule where
  frequency : Value
  nextReview : Option Timestamp
  reviewer : Value

namespace ReviewSchedule

def toDoc (s : ReviewSchedule) : Value :=
  .fields [
    ("frequency", s.frequency),
    ("next_review", Timestamp.toDoc s.nextReview),
    ("reviewer", s.reviewer)]

/-- The review schedule that a document describes. -/
def ofDoc (doc : Value) : Reading ReviewSchedule := do
  let frequency ← doc.field "frequency" "QUARTERLY"
  let nextReview ← (← doc.field "next_review").asTimestamp
  let reviewer ← doc.field "reviewer" ""
  return { frequency, nextReview, reviewer }

end ReviewSchedule

/-- An override of one rule for one package name. -/
structure PolicyException where
  id : Value
  ruleId : Value
  dependency : Value
  reason : Value
  justification : Value
  approvedBy : Value
  approvedAt : Timestamp
  expiresAt : Option Timestamp
  conditions : List Value
  reviewSchedule : Option ReviewSchedule
  status : ExceptionStatus

namespace PolicyException

/-- The document of an exception. -/
def toDoc (e : PolicyException) : Value :=
  .fields [
    ("id", e.id),
    ("rule_id", e.ruleId),
    ("dependency", e.dependency),
    ("reason", e.reason),
    ("justification", e.justification),
    ("approved_by", e.approvedBy),
    ("approved_at", .str e.approvedAt.format),
    ("expires_at", Timestamp.toDoc e.expiresAt),
    ("conditions", .list e.conditions),
    ("review_schedule", (e.reviewSchedule.map ReviewSchedule.toDoc).getD .null),
    ("status", Scale.value e.status)]

/-- The exception that a document describes; it is approved now unless the document says when. -/
def ofDoc (now : Timestamp) (doc : Value) : Reading PolicyException := do
  let schedule ← doc.field "review_schedule"
  let id ← doc.field "id" ""
  let ruleId ← doc.item "rule_id"
  let dependency ← doc.item "dependency"
  let reason ← doc.field "reason" ""
  let justification ← doc.field "justification" ""
  let approvedBy ← doc.field "approved_by" ""
  let approvedAt := (← (← doc.field "approved_at").asTimestamp).getD now
  let expiresAt ← (← doc.item "expires_at").asTimestamp
  let conditions ← (← doc.field "conditions").asListOrEmpty
  let reviewSchedule ← if schedule.truthy then some <$> ReviewSchedule.ofDoc schedule else pure none
  let status ← Scale.readUpper (← doc.field "status" "ACTIVE")
  return {
    id, ruleId, dependency, reason, justification, approvedBy, approvedAt, expiresAt, conditions
    reviewSchedule, status }

/-- The exception is for this rule and this package. -/
def covers (e : PolicyException) (ruleId name : Value) : Bool :=
  e.ruleId.same ruleId && e.dependency.same name

/-- The expiry of an exception, which an order test needs. -/
def expiry (e : PolicyException) (operator : String) : Reading Timestamp :=
  match e.expiresAt with
  | some t => .ok t
  | none => .error (.kind (.notComparable operator "NoneType" "datetime.datetime"))

/-- The exception is in force: active and not expired by now. -/
def isActive (e : PolicyException) (now : Timestamp) : Reading Bool := do
  if e.status = .active then return (← e.expiry ">").isAfter now
  return false

/-- The exception is still active although it has expired by now, a time with an offset. -/
def isLapsed (e : PolicyException) (now : Timestamp) : Reading Bool := do
  if e.status = .active then
    let expiry ← e.expiry "<="
    Timestamp.checkKinds "compare" expiry.assumeUtc now
    return !expiry.isAfter now
  return false

end PolicyException
end SupplyGate
