import SupplyGate.Policy.Basic
import SupplyGate.Policy.Operator
/-!
Validation: every structural problem of a policy, in the order in which a reader of the policy meets
them. A policy without problems may be stored.
-/
namespace SupplyGate.Validation

/-- A problem, if a test says that there is one. -/
def when (there : Bool) (problem : String) : List String := if there then [problem] else []

/-- A problem that names a value, if a test says that there is one. -/
def whenNaming (there : Bool) (problem : String → String) (v : Value) : Reading (List String) :=
  if there then do return [problem (← v.text)] else .ok []

/-- A value is the text of some member of a scale. Collections cannot be looked up on a scale. -/
def onScale (α : Type) [Scale α] (v : Value) : Reading Bool := do
  match ← v.asScalar with
  | .str s => return (Scale.ofText? (α := α) s).isSome
  | _ => return false

/-- What joins a condition with the next one is on the scale, or there is nothing. -/
def joins (c : Condition) : Reading Bool :=
  if c.joinNext.truthy then do return (Scale.ofText? (α := Join) (← c.joinNext.upperText)).isSome else .ok true

def conditionProblems (place : String) (c : Condition) : Reading (List String) := do
  let operator ← whenNaming (!(← onScale Operator c.operator)) (s!"{place}: invalid operator '{·}'") c.operator
  let join ← whenNaming (!(← joins c)) (s!"{place}: invalid logical operator '{·}'") c.joinNext
  return when (!c.field.truthy) s!"{place}: field is required" ++ operator ++ join

def actionProblems (place : String) (a : RuleAction) : List String :=
  when (Scale.ofText? (α := ActionType) a.type).isNone s!"{place}: invalid action type '{a.type}'"

def severityProblems (place : String) : Loose Severity → Reading (List String)
  | .held _ => .ok []
  | .raw v => whenNaming true (s!"{place}: invalid severity '{·}'") v

/-- The problems of the rule at a position. -/
def ruleProblems (r : Rule) (index : Nat) : Reading (List String) := do
  let label := s!"Rule {toString (index + 1)}"
  let severity ← severityProblems label r.severity
  let conditions ← r.conditions.zipIdx.mapM fun (c, j) =>
    conditionProblems s!"{label}, condition {toString (j + 1)}" c
  let actions := r.actions.zipIdx.flatMap fun (a, j) =>
    actionProblems s!"{label}, action {toString (j + 1)}" a
  return when (!r.name.truthy) s!"{label}: name is required" ++
    severity ++
    when r.conditions.isEmpty s!"{label}: must have at least one condition" ++
    when r.actions.isEmpty s!"{label}: must have at least one action" ++
    conditions.flatten ++ actions

/-- A name stands for nothing: it is missing or blank. -/
def isBlankName (v : Value) : Reading Bool :=
  if !v.truthy then .ok true
  else match v with
  | .str s => .ok (Text.trim s == "")
  | v => .error (.noPart v.qualifiedKind "strip")

def problems (p : Policy) : Reading (List String) := do
  let nameless ← isBlankName p.name
  let rules ← p.rules.zipIdx.mapM fun (r, i) => ruleProblems r i
  return when nameless "Policy name is required" ++
    when p.rules.isEmpty "Policy must have at least one rule" ++ rules.flatten

/-- A policy has to be without problems. -/
def check (p : Policy) : Reading Unit := do
  let found ← problems p
  if found.isEmpty then return ()
  throw (.invalidPolicy ("Policy validation failed: " ++ "; ".intercalate found) found)

end SupplyGate.Validation
