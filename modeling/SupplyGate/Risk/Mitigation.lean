import SupplyGate.Risk.Factor
import SupplyGate.Risk.Level
/-!
Mitigation strategies: ways to remove or reduce a risk, ranked by priority. Monitoring is always one
of them and comes last.
-/
namespace SupplyGate

inductive MitigationType where
  | update
  | patch
  | replace
  | configure
  | monitor
  | accept
  deriving DecidableEq, Repr

def MitigationType.toText : MitigationType → String
  | .update => "UPDATE"
  | .patch => "PATCH"
  | .replace => "REPLACE"
  | .configure => "CONFIGURE"
  | .monitor => "MONITOR"
  | .accept => "ACCEPT"

instance : Scale MitigationType :=
  ⟨"MitigationType", [.update, .patch, .replace, .configure, .monitor, .accept],
    MitigationType.toText⟩

inductive Effort where
  | low
  | medium
  | high
  | veryHigh
  deriving DecidableEq, Repr

def Effort.toText : Effort → String
  | .low => "LOW"
  | .medium => "MEDIUM"
  | .high => "HIGH"
  | .veryHigh => "VERY_HIGH"

instance : Scale Effort := ⟨"Effort", [.low, .medium, .high, .veryHigh], Effort.toText⟩

/-- A ranked way to deal with a risk; lower priority numbers are preferred. -/
structure Mitigation where
  id : Value
  type : MitigationType
  description : Value
  effort : Effort
  cost : Effort
  timeline : Value
  effectiveness : Value
  feasibility : Value
  recommendedAction : Value
  priority : Value
  prerequisites : List Value
  risks : List Value
  benefits : List Value

namespace Mitigation

def toDoc (m : Mitigation) : Value :=
  .fields [
    ("id", m.id),
    ("type", Scale.value m.type),
    ("description", m.description),
    ("effort", Scale.value m.effort),
    ("cost", Scale.value m.cost),
    ("timeline", m.timeline),
    ("effectiveness", m.effectiveness),
    ("feasibility", m.feasibility),
    ("recommended_action", m.recommendedAction),
    ("priority", m.priority),
    ("prerequisites", .list m.prerequisites),
    ("risks", .list m.risks),
    ("benefits", .list m.benefits)]

/-- The mitigation that a document describes. -/
def ofDoc (doc : Value) : Reading Mitigation := do
  let id ← doc.item "id"
  let type ← Scale.read (← doc.item "type")
  let description ← doc.field "description" ""
  let effort ← Scale.read (← doc.item "effort")
  let cost ← Scale.read (← doc.item "cost")
  let timeline ← doc.field "timeline" ""
  let effectiveness ← doc.item "effectiveness"
  let feasibility ← doc.item "feasibility"
  let recommendedAction ← doc.field "recommended_action" ""
  let priority ← doc.item "priority"
  let prerequisites ← (← doc.field "prerequisites" (.list [])).asList
  let risks ← (← doc.field "risks" (.list [])).asList
  let benefits ← (← doc.field "benefits" (.list [])).asList
  return {
    id, type, description, effort, cost, timeline, effectiveness, feasibility, recommendedAction
    priority, prerequisites, risks, benefits }

end Mitigation

/-! ## Choosing mitigations -/

/-- Words in a description that tell of a configuration fault. -/
def configurationWords : List String := ["configuration", "setting"]

/-- Weakness classes of configuration faults. -/
def configurationWeaknesses : List String := ["CWE-15", "CWE-16"]

/-- Every value can be looked up in a set; some value is one of the texts. -/
def meetsTexts (texts : List String) (values : List Value) : Reading Bool := do
  return (← values.mapM (·.among texts)).any id

/-- A vulnerability that a change of configuration would mitigate. -/
def Vulnerability.isConfigurable (v : Vulnerability) : Reading Bool := do
  let description ← match v.description.orElse "" with
    | .str s => pure (Text.lower s)
    | w => throw (Fault.noPart w.qualifiedKind "lower")
  if configurationWords.any (Text.contains description ·) then return true
  meetsTexts configurationWeaknesses v.cwe

/-- Some vulnerability would be mitigated by a change of configuration. -/
def anyConfigurable : List Vulnerability → Reading Bool
  | [] => .ok false
  | v :: rest => do if ← v.isConfigurable then return true else anyConfigurable rest

/-- By when an update is due. -/
def updateTimeline (level : RiskLevel) (c : BusinessContext) : String :=
  match level with
  | .critical => if c.environment = .production then "24-48 hours" else "Immediate"
  | .high => "1-2 weeks"
  | .medium => "2-4 weeks"
  | _ => "Next maintenance window"

/-- How much work an update is. -/
def updateEffort (d : Dependency) : Effort :=
  if d.type = .transitive ∨ d.scope = .development then .low else .medium

def updateCost (d : Dependency) (c : BusinessContext) : Effort :=
  if c.environment = .development ∨ d.type = .transitive then .low else .medium

/-- How feasible a mitigation is, with bonuses for transitive and development dependencies. -/
def feasibility (base : Int) (d : Dependency) (transitiveBonus developmentBonus : Int) : Int :=
  min 100 (base + (if d.type = .transitive then transitiveBonus else 0) +
    (if d.scope = .development then developmentBonus else 0))

/-- Update to a version without the vulnerability. -/
def updateStrategy (d : Dependency) (c : BusinessContext) (level : RiskLevel) (id : Value) :
    Mitigation where
  id
  type := .update
  description := .str ("Update " ++ d.name.rendered ++ " to a patched version")
  effort := updateEffort d
  cost := updateCost d c
  timeline := .str (updateTimeline level c)
  effectiveness := .int 95
  feasibility := .int (feasibility 80 d 10 10)
  recommendedAction := "Update to latest secure version"
  priority := .int 1
  prerequisites := ["Test in staging environment", "Review breaking changes"].map .str
  risks := ["Potential breaking changes", "Integration issues"].map .str
  benefits := ["Eliminates known vulnerabilities", "Access to latest features"].map .str

/-- Replace the package by another one. -/
def replaceStrategy (d : Dependency) (c : BusinessContext) (id : Value) : Mitigation where
  id
  type := .replace
  description := .str ("Replace " ++ d.name.rendered ++ " with a secure alternative")
  effort := .high
  cost := .high
  timeline := if c.environment = .production then "4-8 weeks" else "2-4 weeks"
  effectiveness := .int 100
  feasibility := .int (feasibility 50 d 20 15)
  recommendedAction := "Evaluate and migrate to secure alternative"
  priority := .int 2
  prerequisites :=
    ["Research alternatives", "Plan migration strategy", "Update integration code"].map .str
  risks := ["High development effort", "Potential feature differences"].map .str
  benefits := ["Eliminates vulnerable dependency", "Potentially better maintained"].map .str

/-- Change the configuration. -/
def configureStrategy (id : Value) : Mitigation where
  id
  type := .configure
  description := "Apply configuration changes to mitigate risk"
  effort := .low
  cost := .low
  timeline := "Immediate"
  effectiveness := .int 60
  feasibility := .int 85
  recommendedAction := "Apply security configuration"
  priority := .int 3
  prerequisites := ["Review current configuration"].map .str
  risks := ["Partial mitigation only"].map .str
  benefits := ["Quick implementation", "Low cost"].map .str

/-- Watch the package. -/
def monitorStrategy (d : Dependency) (id : Value) : Mitigation where
  id
  type := .monitor
  description := .str ("Enhanced monitoring for " ++ d.name.rendered)
  effort := .low
  cost := .low
  timeline := "Immediate"
  effectiveness := .int 30
  feasibility := .int 95
  recommendedAction := "Implement enhanced monitoring and alerting"
  priority := .int 4
  prerequisites := ["Set up monitoring rules"].map .str
  risks := ["Reactive approach only"].map .str
  benefits := ["Early detection of issues", "Low implementation cost"].map .str

/-- A mitigation with a fresh id, where it applies and what it names can be written. -/
def strategyWhen (applies : Bool) (names : List Value) (build : Value → Mitigation) :
    Numbering (List Mitigation) := do
  if applies then
    let id ← Numbering.fresh .strategy
    Value.checkAll names
    return [build id]
  else return []

/-- The mitigations for a dependency, the preferred first. -/
def mitigations (d : Dependency) (vulnerabilities : List Vulnerability) (c : BusinessContext)
    (level : RiskLevel) : Numbering (List Mitigation) := do
  let fixable := vulnerabilities.any (·.fixAvailable)
  let update ← strategyWhen fixable [d.name] (updateStrategy d c level)
  let replace ← strategyWhen (level = .critical && !fixable) [d.name] (replaceStrategy d c)
  let configure ← strategyWhen (← anyConfigurable vulnerabilities) [] configureStrategy
  let monitor ← strategyWhen true [d.name] (monitorStrategy d)
  return update ++ replace ++ configure ++ monitor

end SupplyGate
