import SupplyGate.Inventory.Basic
import SupplyGate.Policy.Basic
import SupplyGate.Risk.BusinessContext
import SupplyGate.Yaml.Document
/-!
Documents in files: inventories, business contexts and policies. A file is known by its path, and
what its text says as a document is up to a reader of texts, such as that of YAML texts; each reader
of documents tells what is wrong with a document together with its place.
-/
namespace SupplyGate

/-- Texts by path, and how a text is read as a document. -/
structure Files where
  texts : List (String × String)
  read : String → Reading Value

namespace Files

def yaml (texts : List (String × String)) : Files := ⟨texts, Value.ofYaml⟩

/-- The document in a file. -/
def document (files : Files) (path : String) : Reading Value :=
  match files.texts.lookup path with
  | some text => files.read text
  | none => throw (.noSuchFile path)

/-! ## Inventories -/

/-- The inventory in a file. -/
def inventory (files : Files) (path : String) : Reading Inventory := do
  Inventory.ofDoc path (← files.document path)

/-! ## Business contexts -/

/-- The business context of a tenant in a file, which may name another tenant. -/
def businessContext (files : Files) (path : String) (tenantId : Value) :
    Reading BusinessContext := do
  match ← files.document path with
  | .map entries =>
    match BusinessContext.ofDoc (.map (Value.insert (.str "tenant_id") tenantId entries)) with
    | .ok c => return c
    | .error f =>
      throw <| if Inventory.isEntryFault f then
        .malformed ("Invalid business context in " ++ path ++ ": " ++ f.message) else f
  | _ => throw (.malformed ("Invalid business context file: expected a mapping in " ++ path))

/-! ## Policies -/

def policyEntry (now : Timestamp) (number : Nat) (entry : Value) : Reading Policy := do
  let label := "Entry " ++ toString number
  match entry with
  | .map _ => do
    match ← entry.field "rules" (.list []) with
    | .list _ => pure ()
    | _ => throw (.malformed (label ++ ": 'rules' must be a list"))
    match Policy.ofDoc now entry with
    | .ok p => return p
    | .error f => do
      if !(Inventory.isEntryFault f || f.family == .part) then throw f
      let name ← (← entry.field "name" "?").text
      throw (.malformed (label ++ " (" ++ name ++ "): " ++ f.message))
  | _ => throw (.malformed (label ++ ": expected a mapping, got " ++ entry.kindName))

/-- The policies that the document in a file describes. -/
def policiesOf (now : Timestamp) (path : String) (doc : Value) : Reading (List Policy) := do
  match doc with
  | .map entries =>
    match Value.find? "policies" entries with
    | some (.list items) => items.zipIdx.mapM fun (entry, i) => policyEntry now (i + 1) entry
    | some _ => throw (.malformed ("Invalid policy file: 'policies' must be a list in " ++ path))
    | none => throw missing
  | _ => throw missing
where
  /-- The refusal of a document without policies. -/
  missing : Fault :=
    .malformed ("Invalid policy file: expected top-level 'policies' key in " ++ path)

def policies (files : Files) (now : Timestamp) (path : String) : Reading (List Policy) := do
  policiesOf now path (← files.document path)

end Files
end SupplyGate
