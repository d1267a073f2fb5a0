import SupplyGate.Inventory.Severity
import SupplyGate.Policy.Action
import SupplyGate.Policy.Condition
import SupplyGate.Value.Loose
/-!
Policy rules: conditions that trigger a rule, the actions that follow, and how severe its findings
are. A severity that is on no scale is kept as it is, so that validation can report it.
-/
namespace SupplyGate

/-- What a rule is about, beyond what it decides on. -/
structure RuleMetadata where
  tags : List Value
  category : Value
  rationale : Value
  references : List Value
  lastUpdated : Option Timestamp
  impact : Value

namespace RuleMetadata

/-- The document of rule metadata. -/
def toDoc (m : RuleMetadata) : Value :=
  .fields [
    ("tags", .list m.tags),
    ("category", m.category),
    ("rationale", m.rationale),
    ("references", .list m.references),
    ("last_updated", Timestamp.toDoc m.lastUpdated),
    ("impact", m.impact)]

/-- The rule metadata that a document describes. -/
def ofDoc (doc : Value) : Reading RuleMetadata := do
  let doc := doc.orElse (.map [])
  let tags ← (← doc.field "tags").asListOrEmpty
  let category ← doc.field "category" ""
  let rationale ← doc.field "rationale" ""
  let references ← (← doc.field "references").asListOrEmpty
  let lastUpdated ← (← doc.field "last_updated").asTimestamp
  let impact ← doc.field "impact" "MEDIUM"
  return { tags, category, rationale, references, lastUpdated, impact }

end RuleMetadata

structure Rule where
  id : Value
  name : Value
  description : Value
  type : Value
  severity : Loose Severity
  enabled : Value
  conditions : List Condition
  actions : List RuleAction
  metadata : Loose RuleMetadata

namespace Rule

/-- The severity that a value names in any case, or the value itself. -/
def severityOf (v : Value) : Loose Severity :=
  match v with
  | .str s =>
    match Scale.ofText? (Text.upper s) with
    | some severity => .held severity
    | none => .raw v
  | v => .raw v

/-- The actions that are enabled, in order. -/
def enabledActions (r : Rule) : List RuleAction := r.actions.filter (·.enabled.truthy)

def isBlocking (r : Rule) : Bool := r.enabledActions.any (·.type == ActionType.block.toText)

/-- The document of a rule. -/
def toDoc (r : Rule) : Reading Value := do
  let severity ← r.severity.part "value"
  let metadata ← r.metadata.part "to_dict"
  return .fields [
    ("id", r.id),
    ("name", r.name),
    ("description", r.description),
    ("type", r.type),
    ("severity", Scale.value severity),
    ("enabled", r.enabled),
    ("conditions", .ofRecords Condition.toDoc r.conditions),
    ("actions", .ofRecords RuleAction.toDoc r.actions),
    ("metadata", metadata.toDoc)]

/-- The rule that a document describes. -/
def ofDoc (doc : Value) : Reading Rule := do
  let id ← doc.field "id" ""
  let name ← doc.field "name" ""
  let description ← doc.field "description" ""
  let type ← (← doc.field "type" "CUSTOM").upperText
  let severity ← Scale.readUpper (← doc.field "severity" "MEDIUM")
  let enabled ← doc.field "enabled" (.bool true)
  let conditions ← (← doc.field "conditions").asRecordsOrEmpty Condition.ofDoc
  let actions ← (← doc.field "actions").asRecordsOrEmpty RuleAction.ofDoc
  let metadata ← RuleMetadata.ofDoc (← doc.field "metadata")
  return {
    id, name, description, type := .str type, severity := .held severity, enabled, conditions, actions
    metadata := .held metadata }

end Rule

inductive RuleEdit where
  | name (v : Value)
  | description (v : Value)
  | type (v : Value)
  | severity (v : Value)
  | enabled (v : Value)
  | conditions (cs : List Condition)
  | actions (as : List RuleAction)
  | metadata (v : Value)
  | unknown (field : String)

namespace RuleEdit

/-- The edit that an entry of a document describes. The id of a rule is never edited. -/
def ofEntry : Scalar × Value → Reading (Option RuleEdit)
  | (.str "id", _) => .ok none
  | (.str "name", v) => .ok (some (.name v))
  | (.str "description", v) => .ok (some (.description v))
  | (.str "type", v) => .ok (some (.type v))
  | (.str "severity", v) => .ok (some (.severity v))
  | (.str "enabled", v) => .ok (some (.enabled v))
  | (.str "conditions", v) => do return some (.conditions (← v.asRecords Condition.ofDoc))
  | (.str "actions", v) => do return some (.actions (← v.asRecords RuleAction.ofDoc))
  | (.str "metadata", v) => .ok (some (.metadata v))
  | (key, _) => .ok (some (.unknown (Value.scalar key).rendered))

/-- The edits that a document describes. -/
def ofDoc (doc : Value) : Reading (List RuleEdit) :=
  match doc with
  | .map entries => do return (← entries.mapM ofEntry).filterMap id
  | v => .error (.noPart v.qualifiedKind "items")

def apply (r : Rule) : RuleEdit → Reading Rule
  | .name v => .ok { r with name := v }
  | .description v => .ok { r with description := v }
  | .type v => .ok { r with type := v }
  | .severity v => .ok { r with severity := Rule.severityOf v }
  | .enabled v => .ok { r with enabled := v }
  | .conditions cs => .ok { r with conditions := cs }
  | .actions as => .ok { r with actions := as }
  | .metadata v => .ok { r with metadata := .raw v }
  | .unknown field => .error (.kind (.fields
      s!"PolicyRule.__init__() got an unexpected keyword argument '{field}'"))

def applyAll (r : Rule) (edits : List RuleEdit) : Reading Rule := edits.foldlM apply r

end RuleEdit
end SupplyGate
