import SupplyGate.Gate.State
import SupplyGate.Risk.Assessment
/-!
Risk of tenants: their business contexts and criteria, the assessments of their dependencies, and
what can be asked about those. An assessment is never changed; a new one supersedes it.
-/
namespace SupplyGate

/-- Where maintenance estimates come from: a table by identity or name of a dependency, and an
estimate for all others. -/
structure EstimateSource where
  table : List (Scalar × Value)
  default : Value

namespace EstimateSource

/-- The same estimate for every package. -/
def standard : EstimateSource := ⟨[], .float 60.0⟩

/-- The maintenance estimate of a dependency. -/
def estimate (s : EstimateSource) (d : Dependency) : Reading Value := do
  if s.table.isEmpty then return s.default
  match findEntry (.str (← d.identify)) s.table with
  | some v => return v
  | none => return (findEntry (← d.name.asScalar) s.table).getD s.default

end EstimateSource

/-- How dependencies are scored. -/
structure Scoring where
  estimates : EstimateSource
  validityDays : Int

def Scoring.standard : Scoring := ⟨.standard, 30⟩

namespace Gate

/-! ## Contexts and criteria -/

def getContext (tenantId : Value) : Gate BusinessContext := do
  return (← find .contexts tenantId).getD (.default tenantId)

/-- Set the business context of a tenant. -/
def setContext (c : BusinessContext) : Gate Unit := do
  keep .contexts c
  logValues [c.tenantId]
  publish (.contextUpdated c.tenantId (← c.toDoc))

def getCriteria (tenantId : Value) : Gate Criteria := do
  return (← find .criteria tenantId).getD (.standard tenantId)

/-- Replace single weights of a tenant's criteria. -/
def setCriteria (tenantId overrides : Value) : Gate Criteria := do
  let merged ← (← getCriteria tenantId).merged overrides
  let next := { merged with tenantId }
  keep .criteria next
  publish (.criteriaUpdated tenantId next.toDoc)
  return next

/-! ## Assessments -/

def allFactors (criteria : Criteria) (now : Timestamp) (d : Dependency) (vs : List Vulnerability)
    (c : BusinessContext) (estimate : Reading Value) : Numbering (List RiskFactor) := do
  let vulnerability ← vulnerabilityFactors vs criteria now
  let estimate ← estimate
  let dependency ← dependencyFactors d criteria estimate now
  let environment ← environmentFactors c criteria now
  let business ← businessFactors c criteria now
  return vulnerability ++ dependency ++ environment ++ business

def ofCategories (categories : List FactorCategory) (factors : List RiskFactor) : List RiskFactor :=
  factors.filter (categories.contains ·.category)

/-- Assess a dependency, without storing the assessment. -/
def compute (scoring : Scoring) (d : Dependency) (vs : List Vulnerability) (tenantId : Value)
    (given : Option BusinessContext) (assessedBy : Value) : Gate Assessment := do
  let c ← match given with
    | some c => pure c
    | none => getContext tenantId
  let criteria ← getCriteria tenantId
  let now ← clock
  let factors ← ofNumbering (allFactors criteria now d vs c (scoring.estimates.estimate d))
  let businessImpact ← weightedMean (ofCategories [.business, .environment] factors)
  let technicalRisk ← weightedMean (ofCategories [.vulnerability, .dependency] factors)
  let exploitability ← exploitabilityScore vs criteria
  let environmental ← environmentalScore c criteria
  let overall ← overallScore businessImpact technicalRisk exploitability environmental
  let level := RiskLevel.ofInt overall
  let id ← fresh .assessment
  let strategies ← ofNumbering (SupplyGate.mitigations d vs c level)
  let validUntil ← match now.addDays? scoring.validityDays with
    | some t => pure t
    | none => throw .calendarRange
  return {
    id, tenantId, dependency := d, vulnerabilities := vs, assessedAt := some now
    overall := .int overall, level, factors, businessImpact, technicalRisk, exploitability
    environmental, mitigations := strategies, priority := .int (priorityScore overall c)
    validUntil := some validUntil, assessedBy, lastUpdated := some now, supersedes := .null
    supersededBy := .null, businessContext := given }

/-- Compute an assessment and store it. -/
def enterAssessment (scoring : Scoring) (d : Dependency) (vs : List Vulnerability) (tenantId : Value)
    (given : Option BusinessContext) (assessedBy : Value) : Gate Assessment := do
  let a ← compute scoring d vs tenantId given assessedBy
  add .assessments a
  return a

def assess (scoring : Scoring) (d : Dependency) (vs : List Vulnerability) (tenantId : Value)
    (given : Option BusinessContext) (assessedBy : Value) : Gate Assessment := do
  let a ← enterAssessment scoring d vs tenantId given assessedBy
  logValues [d.name, tenantId]
  publish (.riskAssessed tenantId a.id d.ident a.level a.overall)
  return a

def getAssessment (assessmentId : Value) : Gate Assessment := do
  match ← find .assessments assessmentId with
  | some a => return a
  | none => throw (.naming (.notFound .assessment) assessmentId)

/-- Assess a dependency again with new data; the new assessment supersedes the previous one. -/
def reassess (scoring : Scoring) (assessmentId : Value) (d : Option Dependency)
    (vs : Option (List Vulnerability)) (assessedBy : Value) (given : Option BusinessContext) :
    Gate Assessment := do
  let previous ← getAssessment assessmentId
  if d.isNone && vs.isNone then throw (.naming .nothingNew assessmentId)
  let a ← compute scoring (d.getD previous.dependency) (vs.getD previous.vulnerabilities)
    previous.tenantId (given.or previous.businessContext) assessedBy
  let next := { a with supersedes := previous.id }
  add .assessments next
  keep .assessments { previous with supersededBy := next.id, lastUpdated := next.assessedAt }
  publish (.riskReassessed next.tenantId next.id previous.id next.level next.overall)
  return next

/-! ## Queries -/

/-- The remediation queue of some assessments in the business context of a tenant. -/
def prioritize (assessments : List Assessment) (tenantId : Value) : Gate (List QueueRow) := do
  remediationQueue (← getContext tenantId) assessments

/-- An optional timestamp as a sort key. -/
def timeKey : Option Timestamp → Value
  | some t => .time t
  | none => .null

/-- The assessments of a tenant, the newest first. -/
def assessmentsOf (tenantId : Value) : Gate (List Assessment) := do
  sortDescending (timeKey ·.assessedAt) (← ofTenant .assessments tenantId)

/-- The current assessments of a tenant with a high level, the riskiest first. -/
def highRisk (tenantId : Value) : Gate (List Assessment) := do
  sortDescending (·.overall) ((← ofTenant .assessments tenantId).filter Assessment.isHighRisk)

/-- How many assessments have each level. -/
def levelCounts (assessments : List Assessment) : List (Scalar × Value) :=
  assessments.foldl (fun counts a =>
    let key := Scalar.str a.level.toText
    let seen := match findEntry key counts with
      | some (.int n) => n
      | _ => 0
    Value.insert key (.int (seen + 1)) counts) []

/-- Microseconds since an assessment. -/
def ageOf (now : Timestamp) (a : Assessment) : Reading Int := do
  let (now, then_) ← Assessment.needBoth "-" (some now) a.assessedAt
  return now.instant - then_.instant

def riskMetrics (tenantId : Value) : Gate Value := do
  let assessments ← if tenantId.truthy then ofTenant .assessments tenantId else all .assessments
  let now ← clock
  let total := assessments.length
  let ages ← ofReading (assessments.mapM (ageOf now))
  let sum ← Value.sum (assessments.map (·.overall))
  let average ← roundHalfUp (← sum.div (.int (max 1 total : Nat)))
  let expired ← ofReading (assessments.filterM (·.isExpired now))
  let week : Int := 7 * Timestamp.dayLength
  let month : Int := 30 * Timestamp.dayLength
  let count (n : Nat) : Value := .int n
  return .fields [
    ("total", count total),
    ("by_risk_level", .map (levelCounts assessments)),
    ("avg_risk_score", .int average),
    ("expired_assessments", count expired.length),
    ("assessment_age", .fields [
      ("recent", count (ages.countP (· ≤ week))),
      ("week", count (ages.countP fun a => week < a && a ≤ month)),
      ("month", count (ages.countP (month < ·)))])]

end Gate
end SupplyGate
