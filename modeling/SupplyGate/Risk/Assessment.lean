import SupplyGate.Risk.Mitigation
import SupplyGate.Risk.Score
/-!
Risk assessments: the complete score of one dependency for one tenant, with the factors it comes
from, the mitigations it suggests, and links to the assessment it supersedes and the one that
supersedes it. A remediation queue lists assessments by priority with the reasons for each.
-/
namespace SupplyGate

/-- The risk assessment of a dependency for a tenant. -/
structure Assessment where
  id : Value
  tenantId : Value
  dependency : Dependency
  vulnerabilities : List Vulnerability
  assessedAt : Option Timestamp
  overall : Value
  level : RiskLevel
  factors : List RiskFactor
  businessImpact : Value
  technicalRisk : Value
  exploitability : Value
  environmental : Value
  mitigations : List Mitigation
  priority : Value
  validUntil : Option Timestamp
  assessedBy : Value
  lastUpdated : Option Timestamp
  supersedes : Value
  supersededBy : Value
  businessContext : Option BusinessContext

namespace Assessment

def toDoc (a : Assessment) : Reading Value := do
  let context ← match a.businessContext with
    | some c => c.toDoc
    | none => pure .null
  return .fields [
    ("id", a.id),
    ("tenant_id", a.tenantId),
    ("dependency", a.dependency.toDoc),
    ("vulnerabilities", .ofRecords Vulnerability.toDoc a.vulnerabilities),
    ("assessment_date", Timestamp.toDoc a.assessedAt),
    ("score", .fields [
      ("overall", a.overall),
      ("risk_level", Scale.value a.level),
      ("semaphore", a.level.semaphore),
      ("components", .fields [
        ("business_impact", a.businessImpact),
        ("technical_risk", a.technicalRisk),
        ("exploitability", a.exploitability),
        ("environmental", a.environmental)])]),
    ("risk_factors", .ofRecords RiskFactor.toDoc a.factors),
    ("mitigation_strategies", .ofRecords Mitigation.toDoc a.mitigations),
    ("priority", a.priority),
    ("valid_until", Timestamp.toDoc a.validUntil),
    ("assessed_by", a.assessedBy),
    ("last_updated", Timestamp.toDoc a.lastUpdated),
    ("supersedes", a.supersedes),
    ("superseded_by", a.supersededBy),
    ("business_context", context)]

/-- The assessment that a document describes. -/
def ofDoc (now : Timestamp) (doc : Value) : Reading Assessment := do
  let score ← doc.item "score"
  let components ← score.item "components"
  let id ← doc.item "id"
  let tenantId ← doc.item "tenant_id"
  let dependency ← Dependency.ofDoc (← doc.item "dependency")
  let vulnerabilities ← (← doc.field "vulnerabilities" (.list [])).asRecords Vulnerability.ofDoc
  let assessedAt ← (← doc.item "assessment_date").asTimestamp
  let overall ← score.item "overall"
  let level ← Scale.read (← score.item "risk_level")
  let factors ← (← doc.field "risk_factors" (.list [])).asRecords (RiskFactor.ofDoc now)
  let businessImpact ← components.item "business_impact"
  let technicalRisk ← components.item "technical_risk"
  let exploitability ← components.item "exploitability"
  let environmental ← components.item "environmental"
  let mitigations ← (← doc.field "mitigation_strategies" (.list [])).asRecords Mitigation.ofDoc
  let priority ← doc.item "priority"
  let validUntil ← (← doc.item "valid_until").asTimestamp
  let assessedBy ← doc.field "assessed_by" "system"
  let lastUpdated ← (← doc.field "last_updated").asTimestamp
  let supersedes ← doc.field "supersedes"
  let supersededBy ← doc.field "superseded_by"
  let context ← doc.field "business_context"
  let businessContext ←
    if context.truthy then do
      let c ← BusinessContext.ofDoc (← doc.item "business_context")
      pure (some c)
    else pure none
  return {
    id, tenantId, dependency, vulnerabilities, assessedAt, overall, level, factors, businessImpact
    technicalRisk, exploitability, environmental, mitigations, priority, validUntil, assessedBy
    lastUpdated, supersedes, supersededBy, businessContext }

/-- Two timestamps of which one may be missing cannot be compared or subtracted. -/
def needBoth (operator : String) (a b : Option Timestamp) : Reading (Timestamp × Timestamp) :=
  let kind (t : Option Timestamp) := if t.isSome then "datetime.datetime" else "NoneType"
  match a, b with
  | some s, some t => .ok (s, t)
  | _, _ => .error (.kind (.notComparable operator (kind a) (kind b)))

/-- An assessment is past its validity. -/
def isExpired (a : Assessment) (now : Timestamp) : Reading Bool := do
  let (now, until_) ← needBoth ">" (some now) a.validUntil
  return now.isAfter until_

/-- Whole seconds for which an assessment is valid, counted towards zero. -/
def validitySeconds (a : Assessment) : Reading Int := do
  let (until_, from_) ← needBoth "-" a.validUntil a.assessedAt
  return (until_.instant - from_.instant).tdiv 1000000

/-- An assessment that no other one supersedes. -/
def isCurrent (a : Assessment) : Bool :=
  match a.supersededBy with
  | .null => true
  | _ => false

/-- A current assessment of a high level. -/
def isHighRisk (a : Assessment) : Bool :=
  (a.level = .critical || a.level = .high) && a.isCurrent

end Assessment

/-! ## The remediation queue -/

structure QueueRow where
  assessmentId : Value
  dependency : Dependency
  vulnerabilities : List Vulnerability
  riskScore : Value
  priority : Value
  recommendedAction : Value
  timeline : Value
  effort : String
  justification : String

namespace QueueRow

def toDoc (r : QueueRow) : Value :=
  .fields [
    ("assessment_id", r.assessmentId),
    ("dependency", r.dependency.toDoc),
    ("vulnerabilities", .ofRecords Vulnerability.toDoc r.vulnerabilities),
    ("risk_score", r.riskScore),
    ("priority", r.priority),
    ("recommended_action", r.recommendedAction),
    ("timeline", r.timeline),
    ("effort", r.effort),
    ("justification", r.justification)]

end QueueRow

/-- Why an assessment stands where it does. -/
def justification (a : Assessment) (c : BusinessContext) : String :=
  let severe := (a.factors.filter fun f => f.severity = .critical || f.severity = .high).length
  let reasons :=
    (if a.level = .critical then ["Critical risk level"] else []) ++
    (if c.environment = .production then ["Production environment"] else []) ++
    (if c.criticality = .critical then ["Critical application"] else []) ++
    (if severe = 0 then [] else [s!"{toString severe} high-severity factors"]) ++
    (if c.regulations.isEmpty then [] else ["Regulatory compliance requirements"])
  if reasons.isEmpty then "Standard risk assessment priority" else ", ".intercalate reasons

/-- The row of an assessment: its preferred mitigation says what to do. -/
def Assessment.queueRow (c : BusinessContext) (a : Assessment) : QueueRow :=
  let row (action timeline : Value) (effort : String) : QueueRow := {
    assessmentId := a.id
    dependency := a.dependency
    vulnerabilities := a.vulnerabilities
    riskScore := a.overall
    priority := a.priority
    recommendedAction := action
    timeline
    effort
    justification := justification a c }
  match a.mitigations.head? with
  | some top => row top.recommendedAction top.timeline top.effort.toText
  | none => row "Monitor" "TBD" "UNKNOWN"

/-- The remediation queue of some assessments, highest priority first. -/
def remediationQueue (c : BusinessContext) (assessments : List Assessment) :
    Reading (List QueueRow) :=
  sortDescending (·.priority) (assessments.map (Assessment.queueRow c))

end SupplyGate
