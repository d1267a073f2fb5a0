import SupplyGate.Policy.Context
import SupplyGate.Value.Arithmetic
/-!
Condition fields: the names by which conditions ask about a dependency. A `FieldTable` maps names to
ways to read evaluation data; a name that begins with `metadata.` is a path into the metadata of the
dependency, and any other unknown name stands for null.
-/
namespace SupplyGate

/-- How the value of a field is read off. -/
abbrev FieldReader := EvaluationData → Value

/-- The fields that conditions may name. -/
abbrev FieldTable := List (String × FieldReader)

namespace Field

/-- What the names of metadata fields begin with. -/
def metadataMark : List Char := "metadata.".toList

/-- The parts of a path between its points, given the characters of the part so far, last first. -/
def pathParts (part : List Char) : List Char → List String
  | [] => [String.ofList part.reverse]
  | '.' :: rest => String.ofList part.reverse :: pathParts [] rest
  | c :: rest => pathParts (c :: part) rest

/-- The value at the end of a path. -/
def follow (v : Value) : List String → Value
  | [] => v
  | part :: rest =>
    match v with
    | .map entries => follow ((Value.find? part entries).getD .null) rest
    | _ => .null

/-- An optional integer. -/
def ofInt? : Option Int → Value
  | some n => .int n
  | none => .null

def worstSeverity (d : EvaluationData) : Value :=
  match Severity.worst (d.vulnerabilities.map (·.severity)) with
  | some s => Scale.value s
  | none => .null

/-- The severities of the vulnerabilities, each once, in the order of their texts. -/
def severities (d : EvaluationData) : Value :=
  .texts (["CRITICAL", "HIGH", "INFO", "LOW", "MEDIUM"].filter fun s =>
    d.vulnerabilities.any (·.severity.toText == s))

/-- The greatest of some floats, the first of equals. -/
def greatest : List Float → Option Float
  | [] => none
  | x :: rest => some (rest.foldl (fun best y =>
      if (Number.Extended.ofFloat best).less (Number.Extended.ofFloat y) then y else best) x)

def standard : FieldTable := [
  ("name", (·.dependency.name)),
  ("version", fun d => d.dependency.version),
  ("ecosystem", (·.dependency.ecosystem)),
  ("type", fun d => Scale.value d.dependency.type),
  ("scope", fun d => Scale.value d.dependency.scope),
  ("licenses", fun d => .list d.dependency.licenses),
  ("license", fun d => d.dependency.licenses.headD .null),
  ("packageFile", (·.dependency.packageFile)),
  ("lastUpdate", (·.dependency.lastUpdate)),
  ("downloads", (·.dependency.downloads)),
  ("maintainers", fun d => .list d.dependency.maintainers),
  ("description", (·.dependency.description)),
  ("repository", (·.dependency.repository)),
  ("daysSinceLastUpdate", fun d => ofInt? d.daysSinceUpdate),
  ("vulnerability.severity", worstSeverity),
  ("vulnerability.severities", severities),
  ("vulnerability.count", fun d => .int d.vulnerabilities.length),
  ("vulnerability.maxCvssScore", fun d =>
    ((greatest (d.vulnerabilities.filterMap (·.cvssScore))).map Value.float).getD .null),
  ("vulnerability.fixAvailable", fun d => .bool (d.vulnerabilities.any (·.fixAvailable))),
  ("vulnerability.cves", fun d => .list ((d.vulnerabilities.map (·.cve)).filter (·.truthy))),
  ("riskScore", fun d => (d.risk.map (·.score)).getD .null),
  ("riskLevel", fun d => (d.risk.map fun r => Scale.value r.level).getD .null),
  ("context.project", (·.context.project)),
  ("context.environment", (·.context.environment)),
  ("package_file", (·.dependency.packageFile)),
  ("last_update", (·.dependency.lastUpdate)),
  ("days_since_last_update", fun d => ofInt? d.daysSinceUpdate),
  ("risk_score", fun d => (d.risk.map (·.score)).getD .null),
  ("risk_level", fun d => (d.risk.map fun r => Scale.value r.level).getD .null)]

/-- A table with one more field, which hides one of the same name. -/
def register (table : FieldTable) (name : String) (reader : FieldReader) : FieldTable :=
  (name, reader) :: table

/-- The names of a table in order, each once. -/
def names (table : FieldTable) : List String :=
  ((table.map (·.1)).eraseDups).mergeSort fun a b => !Value.lessChars b.toList a.toList

/-- A field name has to be a text. -/
def nameOf : Value → Reading String
  | .str s => .ok s
  | .scalar s => .error (.noPart (Value.scalar s).qualifiedKind "startswith")
  | v => .error (.kind (.unhashable v.qualifiedKind))

/-- The table knows a name, or it is a path into metadata. -/
def isKnown (table : FieldTable) (name : String) : Bool :=
  (table.lookup name).isSome || metadataMark.isPrefixOf name.toList

def resolve (table : FieldTable) (name : String) (d : EvaluationData) : Value :=
  match table.lookup name with
  | some reader => reader d
  | none =>
    if metadataMark.isPrefixOf name.toList then
      follow (.map d.dependency.metadata) (pathParts [] (name.toList.drop metadataMark.length))
    else .null

end Field
end SupplyGate
