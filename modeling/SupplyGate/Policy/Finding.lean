import SupplyGate.Policy.Basic
import SupplyGate.Policy.Fold
import SupplyGate.Policy.Violation
/-!
Findings: the violation that a triggered rule gives for a dependency, with its message, the impact
and recommendation that go with the type of the rule, and one piece of evidence per condition that
holds.
-/
namespace SupplyGate.Finding

/-- The types of rules with wordings of their own. -/
inductive Topic where
  | vulnerability
  | license
  | age
  | maintenance
  | other
  deriving DecidableEq, Repr

/-- The topic of a rule's type. -/
def topicOf (type : Value) : Reading Topic := do
  match ← type.asScalar with
  | .str "VULNERABILITY" => return .vulnerability
  | .str "LICENSE" => return .license
  | .str "AGE" => return .age
  | .str "MAINTENANCE" => return .maintenance
  | _ => return .other

def messageText (topic : Topic) (dependency rule : String) : String :=
  dependency ++ (match topic with
    | .vulnerability => " contains security vulnerabilities that violate policy: "
    | .license => " has license restrictions that violate policy: "
    | .age => " is outdated and violates policy: "
    | .maintenance => " appears unmaintained and violates policy: "
    | .other => " violates policy rule: ") ++ rule

def impactText : Topic → String
  | .vulnerability => "Security vulnerability may expose the application to attacks"
  | .license => "License restrictions may create legal compliance issues"
  | .age => "Outdated dependency may lack security updates and bug fixes"
  | .maintenance => "Unmaintained dependency may pose long-term security and stability risks"
  | .other => "Policy violation may impact application security and compliance"

/-- What to do about a finding. -/
def adviceText (topic : Topic) (name : String) : String :=
  match topic with
  | .vulnerability => "Update " ++ name ++ " to a version that fixes the vulnerability"
  | .license => "Replace " ++ name ++ " with an alternative that has an approved license"
  | .age => "Update " ++ name ++ " to the latest stable version"
  | .maintenance => "Consider replacing " ++ name ++ " with a more actively maintained alternative"
  | .other => "Review and address the policy violation for " ++ name

def evidenceOf (actualValues : List (Scalar × Value)) (now : Timestamp) (c : Condition) :
    Evidence where
  type := "CONFIGURATION"
  source := "policy-engine"
  content := [
    (.str "field", c.field),
    (.str "operator", c.operator),
    (.str "expected_value", c.value),
    (.str "actual_value",
      match c.field with
      | .scalar name => (findEntry name actualValues).getD .null
      | _ => .null)]
  timestamp := now

/-- The violation of a triggered rule, once it has an id. -/
def violationOf (p : Policy) (r : Rule) (d : Dependency) (outcome : ConditionOutcome)
    (c : EvaluationContext) (now : Timestamp) (topic : Topic) (id : Value) (metadata : RuleMetadata) :
    Violation where
  id
  tenantId := p.tenantId
  policyId := p.id
  ruleId := r.id
  dependency := d
  type := r.type
  severity := r.severity
  message := .str (messageText topic d.ident r.name.rendered)
  details := {
    rule := r
    triggeredConditions := outcome.holding
    actualValues := outcome.actualValues
    evidence := outcome.holding.map (evidenceOf outcome.actualValues now)
    impact := .str (impactText topic)
    recommendation := .str (adviceText topic d.name.rendered) }
  context := .of c d
  status := .open
  firstDetected := now
  lastSeen := now
  resolvedAt := none
  resolvedBy := .null
  resolution := .null
  assignedTo := .null
  dueDate := none
  tags := metadata.tags

/-- A stored violation that was detected again: a resolved one is open again, and triage decisions
stay as they are. -/
def seenAgain (now : Timestamp) (found stored : Violation) : Violation :=
  let seen := { stored with
    lastSeen := now
    message := found.message
    details := found.details
    context := found.context }
  if stored.status = .resolved then
    { seen with status := .open, resolution := .null, resolvedBy := .null, resolvedAt := none }
  else seen

end SupplyGate.Finding
