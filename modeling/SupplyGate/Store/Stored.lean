import SupplyGate.Policy.Basic
import SupplyGate.Policy.Evaluation
import SupplyGate.Policy.UpdateStrategy
import SupplyGate.Risk.Assessment
/-!
Stored records: what a store has to know about the records it keeps. Each has an id and a tenant,
and a document from which it can be built again.
-/
namespace SupplyGate

/-- A record that a store can keep. -/
class Stored (α : Type) where
  ident : α → Value
  tenant : α → Value
  toDoc : α → Reading Value
  ofDoc : Timestamp → Value → Reading α

instance : Stored Policy where
  ident := (·.id)
  tenant := (·.tenantId)
  toDoc := Policy.toDoc
  ofDoc := Policy.ofDoc

instance : Stored Violation where
  ident := (·.id)
  tenant := (·.tenantId)
  toDoc := Violation.toDoc
  ofDoc := Violation.ofDoc

instance : Stored EnforcementResult where
  ident := (·.evaluationId)
  tenant := (·.tenantId)
  toDoc := EnforcementResult.toDoc
  ofDoc := EnforcementResult.ofDoc

instance : Stored UpdateStrategy where
  ident := (·.tenantId)
  tenant := (·.tenantId)
  toDoc s := .ok s.toDoc
  ofDoc _ := UpdateStrategy.ofDoc

instance : Stored Assessment where
  ident := (·.id)
  tenant := (·.tenantId)
  toDoc := Assessment.toDoc
  ofDoc := Assessment.ofDoc

instance : Stored BusinessContext where
  ident := (·.tenantId)
  tenant := (·.tenantId)
  toDoc := BusinessContext.toDoc
  ofDoc _ := BusinessContext.ofDoc

instance : Stored Criteria where
  ident := (·.tenantId)
  tenant := (·.tenantId)
  toDoc c := .ok c.toDoc
  ofDoc _ := Criteria.ofDoc

end SupplyGate
