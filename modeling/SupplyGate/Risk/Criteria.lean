import SupplyGate.Value.Read
/-!
Assessment criteria: five tables of weights. Every table starts from the standard weights, and a
tenant's criteria put entries of their own over them.
-/
namespace SupplyGate

abbrev WeightTable := List (Scalar × Value)

def WeightTable.of (rows : List (String × Value)) : WeightTable := rows.map fun (k, v) => (.str k, v)

def WeightTable.weight (table : WeightTable) (label : String) (default : Value) : Value :=
  (Value.find? label table).getD default

/-- The weight tables of a tenant. -/
structure Criteria where
  tenantId : Value
  vulnerability : WeightTable
  dependency : WeightTable
  environmental : WeightTable
  business : WeightTable
  exploitability : WeightTable

namespace Criteria

def standard (tenantId : Value) : Criteria where
  tenantId
  vulnerability := .of [
    ("critical", .int 100), ("high", .int 75), ("medium", .int 50), ("low", .int 25),
    ("info", .int 5)]
  dependency := .of [
    ("direct", .float 1.5), ("transitive", .float 1.0), ("maintenance_status", .float 1.3),
    ("popularity", .float 0.8), ("age", .float 1.1), ("license_risk", .float 1.2)]
  environmental := .of [
    ("production", .float 2.0), ("staging", .float 1.5), ("development", .float 1.0),
    ("test", .float 0.8)]
  business := .of [
    ("critical", .float 2.0), ("high", .float 1.5), ("medium", .float 1.0), ("low", .float 0.7)]
  exploitability := .of [
    ("public_exploit", .float 2.0), ("proof_of_concept", .float 1.5), ("functional", .float 1.2),
    ("unproven", .float 0.8), ("not_defined", .float 1.0)]

/-- The tables of criteria under their names in documents. -/
def tables (c : Criteria) : List (String × WeightTable) := [
  ("vulnerability_weights", c.vulnerability),
  ("dependency_factors", c.dependency),
  ("environmental_factors", c.environmental),
  ("business_factors", c.business),
  ("exploitability_factors", c.exploitability)]

/-- The document of criteria. -/
def toDoc (c : Criteria) : Value :=
  .fields (("tenant_id", c.tenantId) :: c.tables.map fun (name, table) => (name, .map table))

/-- A table of a document over the standard one. -/
def readTable (doc : Value) (name : String) (base : WeightTable) : Reading WeightTable := do
  return Value.overlay base (← (← doc.field name (.map [])).asOverlay)

/-- The criteria that a document describes. -/
def ofDoc (doc : Value) : Reading Criteria := do
  let tenantId ← doc.field "tenant_id" ""
  let base := standard tenantId
  let vulnerability ← readTable doc "vulnerability_weights" base.vulnerability
  let dependency ← readTable doc "dependency_factors" base.dependency
  let environmental ← readTable doc "environmental_factors" base.environmental
  let business ← readTable doc "business_factors" base.business
  let exploitability ← readTable doc "exploitability_factors" base.exploitability
  return { tenantId, vulnerability, dependency, environmental, business, exploitability }

/-- Entries put over the tables with their names, one table after the other. -/
def overlayTables (tables : List (String × WeightTable)) :
    List (Scalar × Value) → Reading (List (String × WeightTable))
  | [] => .ok tables
  | (key, entries) :: rest =>
    match tables.find? fun (name, _) => (Scalar.str name).same key with
    | none => .error (.naming .unknownTable (.scalar key))
    | some (name, _) => do
      let added ← entries.asOverlay
      let tables := tables.map fun (n, t) => (n, if n == name then Value.overlay t added else t)
      overlayTables tables rest

/-- The criteria with single entries replaced. -/
def merged (c : Criteria) (overrides : Value) : Reading Criteria :=
  match overrides with
  | .map entries => do
    let tables ← overlayTables c.tables entries
    ofDoc (.fields (("tenant_id", c.tenantId) :: tables.map fun (name, table) => (name, .map table)))
  | v => .error (.noPart v.qualifiedKind "items")

end Criteria
end SupplyGate
