import SupplyGate.Ids
import SupplyGate.Inventory.Dependency
import SupplyGate.Inventory.Vulnerability
import SupplyGate.Risk.BusinessContext
import SupplyGate.Risk.Criteria
import SupplyGate.Value.Arithmetic
/-!
Risk factors: weighted contributions to an overall score. Vulnerabilities, the dependency itself,
its environment and its business use each contribute factors; every factor takes an id when it is
built, and its weighted score is its score times its weight.
-/
namespace SupplyGate

inductive FactorCategory where
  | vulnerability
  | dependency
  | environment
  | business
  | operational
  deriving DecidableEq, Repr

def FactorCategory.toText : FactorCategory → String
  | .vulnerability => "VULNERABILITY"
  | .dependency => "DEPENDENCY"
  | .environment => "ENVIRONMENT"
  | .business => "BUSINESS"
  | .operational => "OPERATIONAL"

instance : Scale FactorCategory :=
  ⟨"FactorCategory", [.vulnerability, .dependency, .environment, .business, .operational],
    FactorCategory.toText⟩

/-- One weighted contribution to a risk score. -/
structure RiskFactor where
  id : Value
  category : FactorCategory
  type : Value
  description : Value
  severity : Severity
  weight : Value
  score : Value
  weightedScore : Value
  evidence : List Value
  source : Value
  detectedAt : Timestamp

namespace RiskFactor

/-- The document of a factor. -/
def toDoc (f : RiskFactor) : Value :=
  .fields [
    ("id", f.id),
    ("category", Scale.value f.category),
    ("type", f.type),
    ("description", f.description),
    ("severity", Scale.value f.severity),
    ("weight", f.weight),
    ("score", f.score),
    ("weighted_score", f.weightedScore),
    ("evidence", .list f.evidence),
    ("source", f.source),
    ("detected_at", .str f.detectedAt.format)]

/-- The factor that a document describes; it is detected now unless the document says when. -/
def ofDoc (now : Timestamp) (doc : Value) : Reading RiskFactor := do
  let id ← doc.item "id"
  let category ← Scale.read (← doc.item "category")
  let type ← doc.item "type"
  let description ← doc.field "description" ""
  let severity ← Scale.read (← doc.item "severity")
  let weight ← doc.item "weight"
  let score ← doc.item "score"
  let weightedScore ← doc.field "weighted_score" (.float 0.0)
  let evidence ← (← doc.field "evidence" (.list [])).asList
  let source ← doc.field "source" ""
  let detectedAt := (← (← doc.field "detected_at").asTimestamp).getD now
  return {
    id, category, type, description, severity, weight, score, weightedScore, evidence, source
    detectedAt }

end RiskFactor

/-- Steps that give out ids and may be refused. -/
abbrev Numbering := ExceptT Fault (StateM Ids)

def Numbering.fresh (kind : IdKind) : Numbering Value := do
  let (text, ids) := (← get).next kind
  set ids
  return .str text

/-- A reading inside numbered steps. -/
def Numbering.ofReading {α : Type} : Reading α → Numbering α
  | .ok a => pure a
  | .error f => throw f

instance : MonadLift Reading Numbering := ⟨Numbering.ofReading⟩

/-- A factor with a fresh id and its weighted score. -/
def RiskFactor.build (now : Timestamp) (category : FactorCategory) (type description : String)
    (severity : Severity) (weight score : Value) (evidence : List String) (source : Value) :
    Numbering RiskFactor := do
  let id ← Numbering.fresh .factor
  let weightedScore ← score.mul weight
  return {
    id, category, type := type, description := description, severity, weight, score, weightedScore
    evidence := evidence.map .str, source, detectedAt := now }

/-! ## Vulnerabilities -/

def cveEvidence (v : Vulnerability) : Reading (List String) :=
  if v.cve.truthy then do return ["CVE: " ++ (← v.cve.text)] else .ok []

/-- The factor of a vulnerability, scored from its severity. -/
def vulnerabilityFactor (criteria : Criteria) (now : Timestamp) (v : Vulnerability) :
    Numbering RiskFactor := do
  let label := v.severity.toText
  let cve ← cveEvidence v
  let cvss := match v.cvssScore with
    | some x => ["CVSS Score: " ++ Number.floatText x]
    | none => []
  let title ← (v.title.orElse (v.cve.orElse (.str v.id))).text
  RiskFactor.build now .vulnerability "SECURITY_VULNERABILITY" s!"{label} vulnerability: {title}"
    v.severity (criteria.vulnerability.weight (Text.lower label) (.float 1.0))
    (.int v.severity.score) (cve ++ cvss ++ ["Severity: " ++ label])
    (v.dataSource.orElse "vulnerability-scanner")

def vulnerabilityFactors (vulnerabilities : List Vulnerability) (criteria : Criteria)
    (now : Timestamp) : Numbering (List RiskFactor) :=
  vulnerabilities.mapM (vulnerabilityFactor criteria now)

/-! ## The dependency -/

/-- Days after which a package counts as stale, and as abandoned. -/
def staleAfterDays : Int := 180
def abandonedAfterDays : Int := 365

/-- The deduction from a maintenance estimate for a package that was not updated for this long. -/
def stalePenalty (days : Int) : Int :=
  if abandonedAfterDays < days then 20 else if staleAfterDays < days then 10 else 0

/-- A maintenance estimate after the deduction for staleness, within `0 … 100`. -/
def maintenanceEstimate (base : Value) (lastUpdate : Option Timestamp) (now : Timestamp) :
    Reading Value := do
  let penalty ← match lastUpdate with
    | some t => stalePenalty <$> now.daysFrom t.assumeUtc
    | none => pure 0
  let estimate ← if penalty = 0 then pure base else base.sub (.int penalty)
  estimate.clamp

/-- The marks that may stand before a version number. -/
def versionMarks : List Char := ['^', '~', '=', '<', '>', 'v', ' ']

/-- How risky a version line is, by its major number. -/
def ageScore (version : String) : Int :=
  if version == "*" then 50
  else
    let head := ((version.toList.dropWhile versionMarks.contains).takeWhile (· != '.'))
    match Number.readInt (String.ofList head) with
    | .error _ => 40
    | .ok major => if major = 0 then 70 else if 3 ≤ major then 20 else 40

/-- Licenses that oblige to publish derived work. -/
def copyleftLicenses : List String := ["GPL-2.0", "GPL-3.0", "AGPL-3.0", "LGPL-2.1", "LGPL-3.0"]

/-- A value is one of some texts. Collections cannot be looked up in a set of texts. -/
def Value.among (texts : List String) (v : Value) : Reading Bool := do
  let s ← v.asScalar
  return texts.any fun t => (Scalar.str t).same s

def anyAmong (texts : List String) : List Value → Reading Bool
  | [] => .ok false
  | v :: rest => do if ← v.among texts then return true else anyAmong texts rest

def licenseRisk (licenses : List Value) : Reading (Int × Severity) := do
  if ← anyAmong copyleftLicenses licenses then return (60, .high)
  return if licenses.isEmpty then (30, .medium) else (0, .low)

/-- Texts joined by a comma; anything else in the list is refused. -/
def joinTexts (values : List Value) : Reading String := do
  let texts ← values.zipIdx.mapM fun
    | (.str s, _) => Except.ok s
    | (v, i) => .error (.kind (.notText i v.qualifiedKind))
  return ", ".intercalate texts

/-- The last update of a dependency as scoring sees it; scoring cannot use other values. -/
def Dependency.updatedAt (d : Dependency) : Reading (Option Timestamp) :=
  match d.lastUpdate with
  | .null => .ok none
  | .time t => .ok (some t)
  | v => .error (.noPart v.qualifiedKind "tzinfo")

/-- The factor of how a package came in. -/
def typeFactor (d : Dependency) (criteria : Criteria) (now : Timestamp) : Numbering RiskFactor :=
  let evidence := ["Dependency type: " ++ d.type.toText]
  match d.type with
  | .direct =>
    RiskFactor.build now .dependency "DEPENDENCY_TYPE" "Direct dependency" .high
      (criteria.dependency.weight "direct" (.float 1.5)) (.int 80) evidence "dependency-analyzer"
  | .transitive =>
    RiskFactor.build now .dependency "DEPENDENCY_TYPE" "Transitive dependency" .medium
      (criteria.dependency.weight "transitive" (.float 1.0)) (.int 60) evidence "dependency-analyzer"

def scoreEvidence (score : Value) : Reading String := do
  return Number.scoreText (← score.asFloat)

/-- The factor of how well a package is maintained. -/
def maintenanceFactor (d : Dependency) (criteria : Criteria) (base : Value) (now : Timestamp) :
    Numbering RiskFactor := do
  let updatedAt ← d.updatedAt
  let estimate ← maintenanceEstimate base updatedAt now
  let good ← estimate.greater (.int 70)
  let fair ← estimate.greater (.int 40)
  let severity : Severity := if good then .low else if fair then .medium else .high
  let score ← scoreEvidence estimate
  let updated := match updatedAt with
    | some t => ["Last update: " ++ t.date.format]
    | none => []
  RiskFactor.build now .dependency "MAINTENANCE_STATUS" "Package maintenance status" severity
    (criteria.dependency.weight "maintenance_status" (.float 1.3)) (← (Value.int 100).sub estimate)
    (("Maintenance score: " ++ score) :: updated) "package-registry"

/-- The factor of how mature a version line is. -/
def ageFactor (d : Dependency) (criteria : Criteria) (now : Timestamp) : Numbering RiskFactor :=
  let age := ageScore d.version
  RiskFactor.build now .dependency "PACKAGE_AGE" "Package version maturity"
    (if 80 < age then .high else if 60 < age then .medium else .low)
    (criteria.dependency.weight "age" (.float 1.1)) (.int age) ["Version: " ++ d.version]
    "package-registry"

/-- The factor of the licenses, if they carry any risk. -/
def licenseFactors (d : Dependency) (criteria : Criteria) (now : Timestamp) :
    Numbering (List RiskFactor) := do
  let (score, severity) ← licenseRisk d.licenses
  if score ≤ 0 then return []
  let names ← joinTexts d.licenses
  let factor ← RiskFactor.build now .dependency "LICENSE_RISK" "License compliance risk" severity
    (criteria.dependency.weight "license_risk" (.float 1.2)) (.int score)
    ["Licenses: " ++ if names == "" then "none declared" else names] "license-analyzer"
  return [factor]

/-- The factors of a dependency: its type, maintenance, age and licenses. -/
def dependencyFactors (d : Dependency) (criteria : Criteria) (base : Value) (now : Timestamp) :
    Numbering (List RiskFactor) := do
  let type ← typeFactor d criteria now
  let maintenance ← maintenanceFactor d criteria base now
  let age ← ageFactor d criteria now
  let licenses ← licenseFactors d criteria now
  return type :: maintenance :: age :: licenses

/-! ## Environment and business -/

def Environment.score : Environment → Int
  | .production => 100
  | .staging => 75
  | .development => 50
  | .test => 25

def DataClass.score : DataClass → Int × Severity
  | .restricted => (100, .critical)
  | .confidential => (75, .high)
  | .internal => (50, .medium)
  | .public => (25, .low)

def Criticality.score : Criticality → Int × Severity
  | .critical => (100, .critical)
  | .high => (75, .high)
  | .medium => (50, .medium)
  | .low => (25, .low)

/-- The factors of where an application runs and what data it holds. -/
def environmentFactors (c : BusinessContext) (criteria : Criteria) (now : Timestamp) :
    Numbering (List RiskFactor) := do
  let environment := c.environment.toText
  let data := c.dataClass.toText
  let (dataScore, dataSeverity) := c.dataClass.score
  let place ← RiskFactor.build now .environment "ENVIRONMENT_TYPE" (environment ++ " environment")
    (if c.environment = .production then .high else .medium)
    (criteria.environmental.weight (Text.lower environment) (.float 1.0))
    (.int c.environment.score) ["Environment: " ++ environment] "business-context"
  let classification ← RiskFactor.build now .environment "DATA_CLASSIFICATION"
    (data ++ " data classification") dataSeverity (.float 1.0) (.int dataScore)
    ["Data classification: " ++ data] "business-context"
  return [place, classification]

/-- Regulations whose breach is severe. -/
def criticalRegulations : List String := ["SOX", "PCI-DSS", "GDPR", "HIPAA"]

/-- The factors of how critical an application is and which regulations bind it. -/
def businessFactors (c : BusinessContext) (criteria : Criteria) (now : Timestamp) :
    Numbering (List RiskFactor) := do
  let criticality := c.criticality.toText
  let (score, severity) := c.criticality.score
  let first ← RiskFactor.build now .business "APPLICATION_CRITICALITY"
    (criticality ++ " application criticality") severity
    (criteria.business.weight (Text.lower criticality) (.float 1.0)) (.int score)
    ["Application criticality: " ++ criticality] "business-context"
  if c.regulations.isEmpty then return [first]
  let critical ← anyAmong criticalRegulations c.regulations
  let names ← joinTexts c.regulations
  let second ← RiskFactor.build now .business "REGULATORY_COMPLIANCE"
    "Regulatory compliance requirements" (if critical then .high else .medium) (.float 1.5)
    (.int (c.regulations.length * 20)) ["Regulations: " ++ names] "business-context"
  return [first, second]

end SupplyGate
