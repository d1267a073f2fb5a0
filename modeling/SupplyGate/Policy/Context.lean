import SupplyGate.Inventory.Dependency
import SupplyGate.Inventory.Vulnerability
import SupplyGate.Risk.Level
/-!
Evaluation contexts: where a run takes place and what is known about its dependencies. Known
vulnerabilities and risks are found by the identity of a dependency.
-/
namespace SupplyGate

/-- What an assessment says about the risk of a dependency. -/
structure KnownRisk where
  score : Value
  level : RiskLevel

/-- The context of one evaluation run. -/
structure EvaluationContext where
  project : Value
  environment : Value
  scanId : Value
  buildId : Value
  commitId : Value
  pullRequestId : Value
  vulnerabilities : List (String × List Vulnerability)
  risks : List (String × KnownRisk)
  now : Option Timestamp

namespace EvaluationContext

/-- A context that says nothing. -/
def empty : EvaluationContext where
  project := .null
  environment := .null
  scanId := .null
  buildId := .null
  commitId := .null
  pullRequestId := .null
  vulnerabilities := []
  risks := []
  now := none

def vulnerabilitiesOf (c : EvaluationContext) (d : Dependency) : List Vulnerability :=
  (c.vulnerabilities.lookup d.ident).getD []

def riskOf (c : EvaluationContext) (d : Dependency) : Option KnownRisk := c.risks.lookup d.ident

/-- The document of a context: where the run takes place. -/
def toDoc (c : EvaluationContext) : Value :=
  .fields [
    ("project", c.project),
    ("environment", c.environment),
    ("scan_id", c.scanId),
    ("build_id", c.buildId),
    ("commit_id", c.commitId),
    ("pull_request_id", c.pullRequestId)]

end EvaluationContext

/-- A dependency with all that conditions can ask about it. -/
structure EvaluationData where
  dependency : Dependency
  context : EvaluationContext
  vulnerabilities : List Vulnerability
  risk : Option KnownRisk
  daysSinceUpdate : Option Int

/-- The days since the last update of a dependency, if it has one. It has to be a timestamp, and the reference time
has to have an offset. -/
def Dependency.daysSinceUpdate (d : Dependency) (reference : Timestamp) : Reading (Option Int) :=
  match d.lastUpdate with
  | .null => .ok none
  | .time t => some <$> reference.daysFrom t.assumeUtc
  | v => do
    let ident ← d.identify
    v.checkWritable
    .error (.kind (.lastUpdate ident v.quoted))

def EvaluationData.of (d : Dependency) (c : EvaluationContext) (reference : Timestamp) :
    Reading EvaluationData := do
  let daysSinceUpdate ← d.daysSinceUpdate reference
  discard d.identify
  return {
    dependency := d
    context := c
    vulnerabilities := c.vulnerabilitiesOf d
    risk := c.riskOf d
    daysSinceUpdate }

end SupplyGate
