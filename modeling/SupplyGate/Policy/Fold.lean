import SupplyGate.Policy.Condition
import SupplyGate.Policy.Field
import SupplyGate.Policy.Operator
/-!
Folding conditions. Conditions are tested in order; each result is joined to the running result the
way the condition before it says. What was tested, and with which values, is kept as evidence.
-/
namespace SupplyGate

/-- The outcome of testing the conditions of a rule. -/
structure ConditionOutcome where
  triggered : Bool
  holding : List Condition
  actualValues : List (Scalar × Value)

namespace ConditionOutcome

/-- A value as evidence keeps it: a timestamp in its written form. -/
def plain : Value → Value
  | .time t => .str t.format
  | v => v

/-- The running state: the result so far, and how the next result is joined to it; at the start
there is no result. -/
structure Running where
  result : Option Bool
  join : Join
  holding : List Condition
  actualValues : List (Scalar × Value)

/-- Before the first condition. -/
def Running.start : Running := ⟨none, .all, [], []⟩

/-- A further result joined to the one so far. -/
def joinResult (sofar : Option Bool) (join : Join) (result : Bool) : Bool :=
  match sofar, join with
  | none, _ => result
  | some b, .any => b || result
  | some b, .all => b && result

def advance (table : FieldTable) (data : EvaluationData) (run : Running) (c : Condition) :
    Reading Running := do
  let name ← Field.nameOf c.field
  let actual := Field.resolve table name data
  let result := operatorTest c.operator actual c.value
  return {
    result := some (joinResult run.result run.join result)
    join := ← c.join
    holding := if result then run.holding ++ [c] else run.holding
    actualValues := Value.insert (.str name) (plain actual) run.actualValues }

def of (table : FieldTable) (data : EvaluationData) (conditions : List Condition) :
    Reading ConditionOutcome := do
  let run ← conditions.foldlM (advance table data) .start
  return ⟨run.result.getD false, run.holding, run.actualValues⟩

end ConditionOutcome
end SupplyGate
