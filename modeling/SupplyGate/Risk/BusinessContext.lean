import SupplyGate.Value.Read
/-!
Business contexts: how critical a tenant's application is, where it runs and what data it holds.
Maintenance windows and stakeholders are kept as documents give them; a record of theirs is refused
if it has an unknown field or lacks a required one.
-/
namespace SupplyGate

/-- How critical an application is. -/
inductive Criticality where
  | critical
  | high
  | medium
  | low
  deriving DecidableEq, Repr

def Criticality.toText : Criticality → String
  | .critical => "CRITICAL"
  | .high => "HIGH"
  | .medium => "MEDIUM"
  | .low => "LOW"

instance : Scale Criticality :=
  ⟨"ApplicationCriticality", [.critical, .high, .medium, .low], Criticality.toText⟩

/-- Where an application runs. -/
inductive Environment where
  | production
  | staging
  | development
  | test
  deriving DecidableEq, Repr

def Environment.toText : Environment → String
  | .production => "PRODUCTION"
  | .staging => "STAGING"
  | .development => "DEVELOPMENT"
  | .test => "TEST"

instance : Scale Environment :=
  ⟨"EnvironmentType", [.production, .staging, .development, .test], Environment.toText⟩

/-- How confidential an application's data is. -/
inductive DataClass where
  | «public»
  | internal
  | confidential
  | restricted
  deriving DecidableEq, Repr

def DataClass.toText : DataClass → String
  | .public => "PUBLIC"
  | .internal => "INTERNAL"
  | .confidential => "CONFIDENTIAL"
  | .restricted => "RESTRICTED"

instance : Scale DataClass :=
  ⟨"DataClassification", [.public, .internal, .confidential, .restricted], DataClass.toText⟩

/-! ## Records with fixed fields -/

/-- The fields of a record: each with a default, or required. -/
structure FieldList where
  title : String
  qualifiedTitle : String
  fields : List (String × Option Value)

namespace FieldList

/-- Names in quotes, joined as in a sentence. -/
def enumerate : List String → String
  | [] => ""
  | [a] => s!"'{a}'"
  | [a, b] => s!"'{a}' and '{b}'"
  | names => ", ".intercalate (names.dropLast.map fun a => s!"'{a}'") ++
      ", and '" ++ names.getLastD "" ++ "'"

/-- A key of a map that is no field: one that is no text before all others, else the first. -/
def unknownKey (names : List String) (entries : List (Scalar × Value)) : Option Scalar :=
  let keys := entries.map (·.1)
  (keys.find? fun | .str _ => false | _ => true).or
    (keys.find? fun | .str s => !names.contains s | _ => true)

/-- The values of all fields, in order, given by a map. -/
def fill (spec : FieldList) (v : Value) : Reading (List (String × Value)) :=
  match v with
  | .map entries =>
    let names := spec.fields.map (·.1)
    match unknownKey names entries with
    | some (.str s) =>
      .error (.kind (.fields s!"{spec.title}.__init__() got an unexpected keyword argument '{s}'"))
    | some _ => .error (.kind (.fields "keywords must be strings"))
    | none =>
      let missing := (spec.fields.filter fun (name, default) =>
        default.isNone && (Value.find? name entries).isNone).map (·.1)
      if missing.isEmpty then
        .ok (spec.fields.map fun (name, default) =>
          (name, ((Value.find? name entries).or default).getD .null))
      else
        .error (.kind (.fields (
          s!"{spec.title}.__init__() missing {toString missing.length} required positional argument" ++
          (if missing.length = 1 then ": " else "s: ") ++ enumerate missing)))
  | v => .error (.kind (.fields
      s!"{spec.qualifiedTitle}() argument after ** must be a mapping, not {v.qualifiedKind}"))

def maintenanceWindow : FieldList where
  title := "MaintenanceWindow"
  qualifiedTitle := "depgov.scoring.factors.MaintenanceWindow"
  fields := [
    ("id", none), ("name", none), ("day_of_week", none), ("start_time", none), ("end_time", none),
    ("timezone", some "UTC"), ("type", some "REGULAR"), ("approval_required", some (.bool false)),
    ("description", some "")]

def stakeholder : FieldList where
  title := "Stakeholder"
  qualifiedTitle := "depgov.scoring.factors.Stakeholder"
  fields := [
    ("id", none), ("name", none), ("role", none), ("email", none), ("department", some ""),
    ("escalation_level", some (.int 1)), ("responsibilities", some (.list []))]

end FieldList

/-! ## Business contexts -/

/-- A tenant's classification of its application. -/
structure BusinessContext where
  tenantId : Value
  criticality : Criticality
  environment : Environment
  dataClass : DataClass
  regulations : List Value
  windows : List (List (String × Value))
  stakeholders : List (List (String × Value))
  frameworks : List Value
  timezone : Value
  days : List Value
  hours : Value × Value

namespace BusinessContext

/-- The days on which an application is operated unless a context says otherwise. -/
def workingDays : List Value :=
  [.str "Monday", .str "Tuesday", .str "Wednesday", .str "Thursday", .str "Friday"]

/-- The context of a tenant that has not given one. -/
def default (tenantId : Value) : BusinessContext where
  tenantId
  criticality := .medium
  environment := .production
  dataClass := .internal
  regulations := []
  windows := []
  stakeholders := []
  frameworks := []
  timezone := "UTC"
  days := workingDays
  hours := ("09:00", "17:00")

/-- The document of a stakeholder: its responsibilities have to be a list. -/
def stakeholderDoc (fields : List (String × Value)) : Reading Value := do
  return .fields (← fields.mapM fun (name, v) =>
    if name == "responsibilities" then do return (name, .list (← v.asList)) else pure (name, v))

def toDoc (c : BusinessContext) : Reading Value := do
  let stakeholders ← c.stakeholders.mapM stakeholderDoc
  return .fields [
    ("tenant_id", c.tenantId),
    ("application_criticality", Scale.value c.criticality),
    ("environment_type", Scale.value c.environment),
    ("data_classification", Scale.value c.dataClass),
    ("regulatory_requirements", .list c.regulations),
    ("maintenance_windows", .list (c.windows.map .fields)),
    ("stakeholders", .list stakeholders),
    ("compliance_frameworks", .list c.frameworks),
    ("operating_timezone", c.timezone),
    ("operating_days", .list c.days),
    ("operating_hours", .list [c.hours.1, c.hours.2])]

/-- The context that a document describes. -/
def ofDoc (doc : Value) : Reading BusinessContext := do
  let tenantId ← doc.field "tenant_id" ""
  let defaults := default tenantId
  let hours := (← doc.field "operating_hours").orElse (.list [defaults.hours.1, defaults.hours.2])
  let criticality ← Scale.readUpper (← doc.field "application_criticality" "MEDIUM")
  let environment ← Scale.readUpper (← doc.field "environment_type" "PRODUCTION")
  let dataClass ← Scale.readUpper (← doc.field "data_classification" "INTERNAL")
  let regulations ← (← doc.field "regulatory_requirements").asListOrEmpty
  let windows ← (← doc.field "maintenance_windows").asRecordsOrEmpty FieldList.maintenanceWindow.fill
  let stakeholders ← (← doc.field "stakeholders").asRecordsOrEmpty FieldList.stakeholder.fill
  let frameworks ← (← doc.field "compliance_frameworks").asListOrEmpty
  let timezone ← doc.field "operating_timezone" "UTC"
  let days ← ((← doc.field "operating_days").orElse (.list defaults.days)).asList
  let opening ← hours.itemAt 0
  let closing ← hours.itemAt 1
  return {
    tenantId, criticality, environment, dataClass, regulations, windows, stakeholders, frameworks
    timezone, days, hours := (opening, closing) }

end BusinessContext
end SupplyGate
