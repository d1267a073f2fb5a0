import SupplyGate.Policy.Context
import SupplyGate.Policy.Violation
/-!
Update strategies: under which conditions a tenant lets automatic fixes proceed without approval.
-/
namespace SupplyGate

/-- What lets a fix proceed. -/
inductive ApprovalCondition where
  | patchSecurity
  | devDependencies
  | lowRisk
  deriving DecidableEq, Repr

def ApprovalCondition.toText : ApprovalCondition → String
  | .patchSecurity => "PATCH_SECURITY"
  | .devDependencies => "DEV_DEPENDENCIES"
  | .lowRisk => "LOW_RISK"

instance : Scale ApprovalCondition :=
  ⟨"AutoApprovalCondition", [.patchSecurity, .devDependencies, .lowRisk], ApprovalCondition.toText⟩

/-- A rule that lets fixes proceed. -/
structure ApprovalRule where
  condition : ApprovalCondition
  maxRiskScore : Value
  requiresTests : Value
  environments : List Value

namespace ApprovalRule

def toDoc (r : ApprovalRule) : Value :=
  .fields [
    ("condition", Scale.value r.condition),
    ("max_risk_score", r.maxRiskScore),
    ("requires_tests", r.requiresTests),
    ("environments", .list r.environments)]

/-- The approval rule that a document describes. -/
def ofDoc (doc : Value) : Reading ApprovalRule := do
  let condition ← Scale.readUpper (← doc.item "condition")
  let maxRiskScore ← doc.field "max_risk_score" (.int 50)
  let requiresTests ← doc.field "requires_tests" (.bool true)
  let environments ← (← doc.field "environments").asListOrEmpty
  return { condition, maxRiskScore, requiresTests, environments }

def conditionHolds (r : ApprovalRule) (strategy : String) (d : Dependency) (c : EvaluationContext) :
    Bool :=
  match r.condition with
  | .patchSecurity => strategy == "UPDATE" && (c.vulnerabilitiesOf d).any (·.fixAvailable)
  | .devDependencies => d.scope == .development
  | .lowRisk => (c.riskOf d).any fun k => k.level == .low || k.level == .minimal

/-- The rule lets a fix of a dependency proceed. -/
def approves (r : ApprovalRule) (strategy : String) (d : Dependency) (c : EvaluationContext) :
    Reading Bool := do
  if !r.environments.isEmpty && !c.environment.elem r.environments then return false
  let tooRisky ← match c.riskOf d with
    | some k => k.score.greater r.maxRiskScore
    | none => pure false
  return !tooRisky && r.conditionHolds strategy d c

/-- The first of some rules that lets a fix proceed. -/
def firstApproving (strategy : String) (d : Dependency) (c : EvaluationContext) :
    List ApprovalRule → Reading (Option ApprovalRule)
  | [] => .ok none
  | r :: rest => do
    if ← r.approves strategy d c then return some r
    firstApproving strategy d c rest

end ApprovalRule

/-- How a tenant handles updates. -/
structure UpdateStrategy where
  tenantId : Value
  strategy : Value
  approvalRules : List ApprovalRule

namespace UpdateStrategy

def toDoc (s : UpdateStrategy) : Value :=
  .fields [
    ("tenant_id", s.tenantId),
    ("strategy", s.strategy),
    ("auto_approval_rules", .ofRecords ApprovalRule.toDoc s.approvalRules)]

/-- The update strategy that a document describes. -/
def ofDoc (doc : Value) : Reading UpdateStrategy := do
  let tenantId ← doc.item "tenant_id"
  let strategy ← doc.field "strategy" "BALANCED"
  let approvalRules ← (← doc.field "auto_approval_rules").asRecordsOrEmpty ApprovalRule.ofDoc
  return { tenantId, strategy, approvalRules }

/-- The strategy of a tenant that has set none. -/
def standard (tenantId : Value) : UpdateStrategy where
  tenantId
  strategy := "BALANCED"
  approvalRules := [{
    condition := .patchSecurity
    maxRiskScore := .int 50
    requiresTests := .bool true
    environments := ["development", "staging"] }]

end UpdateStrategy
end SupplyGate
