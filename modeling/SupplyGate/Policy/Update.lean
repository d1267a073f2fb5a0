import SupplyGate.Policy.Basic
/-!
Policy updates: which fields of a policy are to change, and to what. An update comes as a document,
or as a policy that is to take the place of another one. Who created a policy, when and for whom is
never updated.
-/
namespace SupplyGate

/-- A change of one field. -/
inductive PolicyEdit where
  | name (v : Value)
  | description (v : Value)
  | version (v : Value)
  | enabled (v : Value)
  | priority (v : Value)
  | scope (s : Loose PolicyScope)
  | enforcement (e : Loose Enforcement)
  | exceptions (es : Loose (List (Loose PolicyException)))
  | approvedBy (v : Value)
  | approvedAt (v : Value)
  | unknown (field : String)

namespace PolicyEdit

/-- A policy after a change. -/
def apply (p : Policy) : PolicyEdit → Reading Policy
  | .name v => .ok { p with name := v }
  | .description v => .ok { p with description := v }
  | .version v => .ok { p with version := v }
  | .enabled v => .ok { p with enabled := v }
  | .priority v => .ok { p with priority := v }
  | .scope s => .ok { p with scope := s }
  | .enforcement e => .ok { p with enforcement := e }
  | .exceptions es => .ok { p with exceptions := es }
  | .approvedBy v => .ok { p with approvedBy := v }
  | .approvedAt v => .ok { p with approvedAt := v }
  | .unknown field => .error (.kind (.fields
      s!"DependencyPolicy.__init__() got an unexpected keyword argument '{field}'"))

end PolicyEdit

structure PolicyUpdate where
  edits : List PolicyEdit
  rules : Option (List (Loose Rule))
  metadata : Option (Loose PolicyMetadata)

namespace PolicyUpdate

/-- Fields that an update leaves alone. -/
def fixedFields : List String := ["id", "tenant_id", "created_at", "created_by"]

/-- A record where there is a map, or the value itself. -/
def recordOrRaw {α : Type} (ofDoc : Value → Reading α) (v : Value) : Reading (Loose α) :=
  match v with
  | .map _ => .held <$> ofDoc v
  | v => .ok (.raw v)

def exceptionsOf : Value → Loose (List (Loose PolicyException))
  | .list items => .held (items.map .raw)
  | v => .raw v

/-- The change of a field other than rules and metadata. -/
def editOf (field : String) (v : Value) : Reading PolicyEdit :=
  match field with
  | "name" => .ok (.name v)
  | "description" => .ok (.description v)
  | "version" => .ok (.version v)
  | "enabled" => .ok (.enabled v)
  | "priority" => .ok (.priority v)
  | "scope" => .scope <$> recordOrRaw PolicyScope.ofDoc v
  | "enforcement" => .enforcement <$> recordOrRaw Enforcement.ofDoc v
  | "exceptions" => .ok (.exceptions (exceptionsOf v))
  | "approved_by" => .ok (.approvedBy v)
  | "approved_at" => .ok (.approvedAt v)
  | field => .ok (.unknown field)

/-- The fields of a document that an update changes. -/
def changedFields (entries : List (Scalar × Value)) : List (String × Value) :=
  (entries.map fun (k, v) => ((Value.scalar k).rendered, v)).filter fun (k, _) => !fixedFields.contains k

def rulesOf (v : Value) : Reading (List (Loose Rule)) := do
  (← v.asList).mapM (recordOrRaw Rule.ofDoc)

/-- An optional part of a document. -/
def optionally {α : Type} (read : Value → Reading α) : Option Value → Reading (Option α)
  | none => .ok none
  | some v => some <$> read v

/-- The update that a document describes. -/
def ofDoc (doc : Value) : Reading PolicyUpdate :=
  match doc with
  | .map entries => do
    let fields := changedFields entries
    let plain := fields.filter fun (k, _) => k != "rules" && k != "metadata"
    let (scopes, others) := plain.partition fun (k, _) => k == "scope"
    let edits ← (scopes ++ others).mapM fun (k, v) => editOf k v
    let metadata ← optionally (recordOrRaw PolicyMetadata.ofDoc) (fields.lookup "metadata")
    let rules ← optionally rulesOf (fields.lookup "rules")
    return { edits, rules, metadata }
  | v => .error (.noPart v.qualifiedKind "items")

/-- The update by which a policy takes the place of another one. -/
def ofPolicy (p : Policy) : PolicyUpdate where
  edits := [
    .name p.name, .description p.description, .enabled p.enabled, .priority p.priority,
    .scope p.scope, .enforcement p.enforcement]
  rules := some (p.rules.map .held)
  metadata := none

end PolicyUpdate
end SupplyGate
