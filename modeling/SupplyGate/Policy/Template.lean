import SupplyGate.Policy.Basic
/-!
Policy templates: three blueprints from which a tenant's policies can be made. The rules of a
template have no ids; they get them when a policy is made.
-/
namespace SupplyGate

/-- A blueprint of a policy. -/
structure Template where
  id : String
  name : String
  description : String
  category : String
  rules : List Rule
  defaultScope : PolicyScope
  version : String
  author : String
  framework : Value
  tags : List String
  references : List String

namespace Template

/-- The document of a template. -/
def toDoc (t : Template) : Reading Value := do
  let rules ← t.rules.mapM Rule.toDoc
  return .fields [
    ("id", t.id),
    ("name", t.name),
    ("description", t.description),
    ("category", t.category),
    ("framework", t.framework),
    ("rules", .list rules),
    ("default_scope", t.defaultScope.toDoc),
    ("metadata", .fields [
      ("version", t.version),
      ("author", t.author),
      ("tags", .texts t.tags),
      ("references", .texts t.references)])]

def rule (name description type : String) (severity : Severity) (condition : Condition)
    (actions : List RuleAction) (category rationale impact : String) (tags references : List String) :
    Rule where
  id := ""
  name := name
  description := description
  type := type
  severity := .held severity
  enabled := .bool true
  conditions := [condition]
  actions
  metadata := .held {
    tags := tags.map .str
    category := category
    rationale := rationale
    references := references.map .str
    lastUpdated := none
    impact := impact }

def condition (field operator : String) (value : Value) : Condition := ⟨field, operator, value, .null⟩

/-- An action that blocks, with its message. -/
def block (message : String) : RuleAction :=
  .of .block { ActionConfig.empty with blockingMessage := message }

/-- An action that warns, with its message. -/
def warn (message : String) : RuleAction :=
  .of .warn { ActionConfig.empty with warningMessage := message }

def scope (environments dependencyTypes : List String) : PolicyScope where
  environments := environments.map .str
  projects := []
  ecosystems := ["npm", "python", "java"]
  dependencyTypes := dependencyTypes.map .str
  scopes := ["production"]

/-- Severe vulnerabilities. -/
def securityStandard : Template where
  id := "security-standard"
  name := "Standard Security Policy"
  description := "Comprehensive security policy for dependency management"
  category := "SECURITY"
  rules := [
    rule "Block Critical Vulnerabilities"
      "Block dependencies with critical security vulnerabilities" "VULNERABILITY" .critical
      (condition "vulnerability.severity" "equals" "CRITICAL")
      [block "Dependency contains critical security vulnerabilities and cannot be used",
        .of .notify { ActionConfig.empty with
          channels := ["security-alerts"]
          recipients := ["security-team@company.com"] }]
      "security" "Critical vulnerabilities pose immediate security risks" "CRITICAL"
      ["security", "vulnerability", "critical"] ["NIST SP 800-53", "OWASP Top 10"],
    rule "Warn on High Vulnerabilities"
      "Warn when dependencies have high severity vulnerabilities" "VULNERABILITY" .high
      (condition "vulnerability.severity" "equals" "HIGH")
      [warn "Dependency contains high severity vulnerabilities - review and update recommended",
        .of .createIssue { ActionConfig.empty with
          issueTracker := some {
            system := "JIRA"
            project := "SEC"
            issueType := "Security Issue"
            priority := "High"
            assignee := .null
            labels := ["security", "vulnerability"] } }]
      "security" "High vulnerabilities should be tracked and addressed" "HIGH"
      ["security", "vulnerability", "high"] ["CVE Database"]]
  defaultScope := scope ["production", "staging"] ["direct", "transitive"]
  version := "1.0.0"
  author := "Security Team"
  framework := .null
  tags := ["security", "vulnerability", "standard"]
  references := ["NIST SP 800-53", "OWASP"]

/-- Licenses. -/
def licenseCompliance : Template where
  id := "license-compliance"
  name := "License Compliance Policy"
  description := "Ensure compliance with open source license requirements"
  category := "LICENSE"
  rules := [
    rule "Block Copyleft Licenses" "Block dependencies with restrictive copyleft licenses" "LICENSE"
      .high
      (condition "license" "in"
        (.texts ["GPL-2.0", "GPL-3.0", "AGPL-3.0", "LGPL-2.1", "LGPL-3.0"]))
      [block "License is not approved for commercial use"]
      "license" "Copyleft licenses may impose restrictions on commercial products" "HIGH"
      ["license", "compliance", "copyleft"] ["Corporate License Policy"],
    rule "Require License Information" "Require all dependencies to have license information"
      "LICENSE" .medium (condition "licenses" "not_exists" .null)
      [warn "Dependency lacks license information - manual review required"]
      "license" "All dependencies must have clear license information" "MEDIUM"
      ["license", "compliance"] ["Legal Requirements"]]
  defaultScope := scope ["production"] ["direct", "transitive"]
  version := "1.0.0"
  author := "Legal Team"
  framework := .null
  tags := ["license", "compliance", "legal"]
  references := ["Corporate Legal Policy"]

/-- Packages that nobody maintains. -/
def maintenance : Template where
  id := "maintenance-policy"
  name := "Dependency Maintenance Policy"
  description := "Ensure dependencies are actively maintained and up-to-date"
  category := "MAINTENANCE"
  rules := [
    rule "Block Unmaintained Dependencies"
      "Block dependencies that have not been updated in over 2 years" "MAINTENANCE" .medium
      (condition "daysSinceLastUpdate" "greater_than" (.int 730))
      [warn "Dependency appears to be unmaintained - consider alternatives"]
      "maintenance" "Unmaintained dependencies pose security and stability risks" "MEDIUM"
      ["maintenance", "age", "support"] ["Software Maintenance Best Practices"]]
  defaultScope := scope ["production"] ["direct"]
  version := "1.0.0"
  author := "Engineering Team"
  framework := .null
  tags := ["maintenance", "quality"]
  references := []

/-- All templates, in order. -/
def all : List Template := [securityStandard, licenseCompliance, maintenance]

def find? (id : Value) : Option Template := all.find? fun t => (Value.str t.id).same id

end Template
end SupplyGate
