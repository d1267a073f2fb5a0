import SupplyGate.Value.Read
/-!
Dependencies: one version of a package, as an inventory scan found it. Only what the program decides
on has a type of its own; the other fields keep the value of the document.
-/
namespace SupplyGate

/-- How a package came in. -/
inductive DependencyType where
  | direct
  | transitive
  deriving DecidableEq, Repr

def DependencyType.toText : DependencyType → String
  | .direct => "direct"
  | .transitive => "transitive"

instance : Scale DependencyType := ⟨"DependencyType", [.direct, .transitive], DependencyType.toText⟩

/-- What a package is used for. -/
inductive DependencyScope where
  | production
  | development
  | optional
  | peer
  deriving DecidableEq, Repr

def DependencyScope.toText : DependencyScope → String
  | .production => "production"
  | .development => "development"
  | .optional => "optional"
  | .peer => "peer"

instance : Scale DependencyScope :=
  ⟨"DependencyScope", [.production, .development, .optional, .peer], DependencyScope.toText⟩

/-- One version of a package in an inventory. `lastUpdate` is null or a timestamp; any other value
there makes the dependency unusable for rules. -/
structure Dependency where
  name : Value
  version : String
  ecosystem : Value
  type : DependencyType
  scope : DependencyScope
  licenses : List Value
  lastUpdate : Value
  packageFile : Value
  description : Value
  repository : Value
  maintainers : List Value
  downloads : Value
  metadata : List (Scalar × Value)

namespace Dependency

/-- The identity of a dependency: name and version. -/
def ident (d : Dependency) : String := d.name.rendered ++ "@" ++ d.version

/-- The identity of a dependency, whose name has to be one that can be written. -/
def identify (d : Dependency) : Reading String := do
  d.name.checkWritable
  return d.ident

/-- The document of a dependency. -/
def toDoc (d : Dependency) : Value :=
  .fields [
    ("name", d.name),
    ("version", d.version),
    ("ecosystem", d.ecosystem),
    ("type", Scale.value d.type),
    ("scope", Scale.value d.scope),
    ("licenses", .list d.licenses),
    ("last_update", match d.lastUpdate with
      | .time t => .str t.format
      | _ => .null),
    ("package_file", d.packageFile),
    ("description", d.description),
    ("repository", d.repository),
    ("maintainers", .list d.maintainers),
    ("downloads", d.downloads),
    ("metadata", .map d.metadata)]

/-- The dependency that a document describes. -/
def ofDoc (doc : Value) : Reading Dependency := do
  let name ← doc.item "name"
  let version ← (← doc.field "version" "*").text
  let ecosystem ← doc.field "ecosystem" ""
  let type ← Scale.readLower (← doc.field "type" "direct")
  let scope ← Scale.readLower (← doc.field "scope" "production")
  let licenses ← (← doc.field "licenses").asListOrEmpty
  let lastUpdate ← (← doc.field "last_update").asTimestamp
  let packageFile ← doc.field "package_file" ""
  let description ← doc.field "description"
  let repository ← doc.field "repository"
  let maintainers ← (← doc.field "maintainers").asListOrEmpty
  let downloads ← doc.field "downloads"
  let metadata ← (← doc.field "metadata").asEntriesOrEmpty
  return {
    name, version, ecosystem, type, scope, licenses
    lastUpdate := (lastUpdate.map Value.time).getD .null
    packageFile, description, repository, maintainers, downloads, metadata }

end Dependency
end SupplyGate
