import SupplyGate.Inventory.Severity
/-!
Known vulnerabilities matched against a dependency.
-/
namespace SupplyGate

/-- A known vulnerability. `cvssScore` is null or a float. -/
structure Vulnerability where
  id : String
  severity : Severity
  cve : Value
  cvssScore : Option Float
  exploitability : Value
  fixAvailable : Bool
  description : Value
  title : Value
  cwe : List Value
  dataSource : Value
  fixedVersions : List Value

namespace Vulnerability

def toDoc (v : Vulnerability) : Value :=
  .fields [
    ("id", v.id),
    ("severity", Scale.value v.severity),
    ("cve", v.cve),
    ("cvss_score", (v.cvssScore.map Value.float).getD .null),
    ("exploitability", v.exploitability),
    ("fix_available", .bool v.fixAvailable),
    ("description", v.description),
    ("title", v.title),
    ("cwe", .list v.cwe),
    ("data_source", v.dataSource),
    ("fixed_versions", .list v.fixedVersions)]

/-- The vulnerability that a document describes. Its id falls back to the CVE number. -/
def ofDoc (doc : Value) : Reading Vulnerability := do
  let cvss ← doc.field "cvss_score"
  let ident ← doc.field "id"
  let named ← if ident.truthy then pure ident else doc.field "cve"
  let id ← (named.orElse "").text
  let severity ← Scale.readUpper (← doc.field "severity" "LOW")
  let cve ← doc.field "cve"
  let cvssScore ← match cvss with
    | .null => pure none
    | v => some <$> v.asFloat
  let exploitability ← doc.field "exploitability"
  let fixAvailable := (← doc.field "fix_available" (.bool false)).truthy
  let description := (← doc.field "description").orElse ""
  let title := (← doc.field "title").orElse ""
  let cwe ← (← doc.field "cwe").asListOrEmpty
  let dataSource := (← doc.field "data_source").orElse ""
  let fixedVersions ← (← doc.field "fixed_versions").asListOrEmpty
  return {
    id, severity, cve, cvssScore, exploitability, fixAvailable, description, title, cwe, dataSource
    fixedVersions }

end Vulnerability

end SupplyGate
