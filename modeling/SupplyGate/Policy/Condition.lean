import SupplyGate.Value.Read
/-!
Rule conditions: one field, one operator and one value to compare with. Nothing about a condition is
checked when it is read; validation reports what is wrong with it.
-/
namespace SupplyGate

/-- How the running result of a rule is joined with the next condition. -/
inductive Join where
  | all
  | any
  deriving DecidableEq, Repr

def Join.toText : Join → String
  | .all => "AND"
  | .any => "OR"

instance : Scale Join := ⟨"LogicalOperator", [.all, .any], Join.toText⟩

/-- One test of a rule. -/
structure Condition where
  field : Value
  operator : Value
  value : Value
  joinNext : Value

namespace Condition

def toDoc (c : Condition) : Value :=
  .fields ([("field", c.field), ("operator", c.operator), ("value", c.value)] ++
    if c.joinNext.truthy then [("logical_operator", c.joinNext)] else [])

/-- The condition that a document describes. -/
def ofDoc (doc : Value) : Reading Condition := do
  let field ← doc.field "field" ""
  let operator ← doc.field "operator" ""
  let value ← doc.field "value"
  let joinNext ← doc.field "logical_operator"
  return { field, operator, value, joinNext }

/-- How this condition is joined with the next one: all must hold unless it says otherwise. -/
def join (c : Condition) : Reading Join :=
  if c.joinNext.truthy then Scale.readUpper c.joinNext else .ok .all

end Condition
end SupplyGate
