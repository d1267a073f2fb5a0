import SupplyGate.Inventory.Dependency
import SupplyGate.Inventory.Vulnerability
/-!
Inventories: the dependencies of a project with their known vulnerabilities. `Inventory.ofDoc` reads
the document of one; a dependency that is listed again is passed over.
-/
namespace SupplyGate

/-- Dependencies, and the vulnerabilities of those that have any, by identity. -/
structure Inventory where
  dependencies : List Dependency
  vulnerabilities : List (String × List Vulnerability)

namespace Inventory

def empty : Inventory := ⟨[], []⟩

def vulnerabilitiesOf (v : Inventory) (d : Dependency) : List Vulnerability :=
  (v.vulnerabilities.lookup d.ident).getD []

/-- A dependency with this identity is listed. -/
def lists (v : Inventory) (ident : String) : Bool := v.dependencies.any (·.ident == ident)

/-- The inventory with one more dependency, unless it is listed already. -/
def add (v : Inventory) (d : Dependency) (known : List Vulnerability) : Inventory :=
  if v.lists d.ident then v
  else {
    dependencies := v.dependencies ++ [d]
    vulnerabilities :=
      if known.isEmpty then v.vulnerabilities else v.vulnerabilities ++ [(d.ident, known)] }

/-! ## Reading -/

/-- A fault in the content of an entry, which is told together with the entry. -/
def isEntryFault (f : Fault) : Bool := f.isValueFault || f.isKeyFault || f.family == .kind

/-- What an entry describes: a dependency and its vulnerabilities. -/
def entryOf (name : String) (entries : List (Scalar × Value)) :
    Reading (Dependency × List Vulnerability) := do
  let doc := Value.map entries
  let d ← Dependency.ofDoc (.map (Value.insert (.str "name") (.str name) entries))
  let known ← (← doc.field "vulnerabilities").asRecordsOrEmpty Vulnerability.ofDoc
  return (d, known)

def addEntry (v : Inventory) (number : Nat) (entry : Value) : Reading Inventory := do
  let label := "Entry " ++ toString number
  match entry with
  | .map entries => do
    let name := Text.trim (← (← entry.field "name" "").text)
    if name == "" then throw (.malformed (label ++ ": 'name' is required"))
    let label := label ++ " (" ++ name ++ ")"
    if !(← entry.field "ecosystem").truthy then
      throw (.malformed (label ++ ": 'ecosystem' is required"))
    match entryOf name entries with
    | .ok (d, known) => return v.add d known
    | .error f => throw (if isEntryFault f then .malformed (label ++ ": " ++ f.message) else f)
  | _ => throw (.malformed (label ++ ": expected a mapping, got " ++ entry.kindName))

/-- The inventory that the document in a file describes. -/
def ofDoc (path : String) (doc : Value) : Reading Inventory := do
  match doc with
  | .map entries =>
    match Value.find? "dependencies" entries with
    | some (.list items) =>
      items.zipIdx.foldlM (fun v (entry, i) => v.addEntry (i + 1) entry) empty
    | some _ =>
      throw (.malformed ("Invalid inventory file: 'dependencies' must be a list in " ++ path))
    | none => throw missing
  | _ => throw missing
where
  /-- The refusal of a document without dependencies. -/
  missing : Fault :=
    .malformed ("Invalid inventory file: expected top-level 'dependencies' key in " ++ path)

end Inventory
end SupplyGate
