import SupplyGate.Policy.Basic
import SupplyGate.Policy.Context
import SupplyGate.Value.Arithmetic
/-!
Selection: which policies take part in an evaluation, in which order, which of them apply to a
dependency, and which exception sets a rule aside.
-/
namespace SupplyGate

/-- A list that is not empty has to hold the value. -/
def mentions (wanted : List Value) (v : Value) : Bool := wanted.isEmpty || v.elem wanted

/-- The scope admits a dependency. Environment and project only count if the run names them. -/
def PolicyScope.admits (s : PolicyScope) (d : Dependency) (c : EvaluationContext) : Bool :=
  mentions s.ecosystems d.ecosystem &&
  mentions s.dependencyTypes (Scale.value d.type) &&
  mentions s.scopes (Scale.value d.scope) &&
  (!c.environment.truthy || mentions s.environments c.environment) &&
  (!c.project.truthy || mentions s.projects c.project)

namespace Policy

/-- The policy takes effect: it is enabled and its mode does not switch it off. -/
def isActive (p : Policy) : Reading Bool := do
  if p.enabled.truthy then return (← p.enforcement.part "mode").mode != .disabled
  return false

/-- The policies that take effect, those of the highest priority first. -/
def active (policies : List Policy) : Reading (List Policy) := do
  sortDescending (·.priority) (← policies.filterM isActive)

def appliesTo (p : Policy) (d : Dependency) (c : EvaluationContext) : Reading Bool := do
  return (← p.scope.part "ecosystems").admits d c

/-- The first of some exceptions that is in force for a rule and a package. -/
def firstInForce (ruleId name : Value) (now : Timestamp) :
    List (Loose PolicyException) → Reading (Option PolicyException)
  | [] => .ok none
  | e :: rest => do
    let e ← e.part "matches"
    if e.covers ruleId name then
      if ← e.isActive now then return some e
    firstInForce ruleId name now rest

/-- The exception that sets a rule aside for a package. -/
def exceptionFor (p : Policy) (r : Rule) (d : Dependency) (now : Timestamp) :
    Reading (Option PolicyException) := do
  firstInForce r.id d.name now (← p.exceptionList)

end Policy
end SupplyGate
