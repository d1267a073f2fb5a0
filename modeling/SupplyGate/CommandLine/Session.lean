import SupplyGate.CommandLine.Command
import SupplyGate.Files
import SupplyGate.Gate.Evaluator
import SupplyGate.Gate.Policies
import SupplyGate.Gate.Risk
import SupplyGate.Gate.Violations
/-!
Running commands. A command ends with an exit code: 0 if nothing is wrong, 1 if a dependency is
blocked or the command broke down, 2 if its arguments, files or templates cannot be accepted.
Commands of one session share a database, which a command uses only if it is asked to keep its
results.
-/
namespace SupplyGate.CommandLine

inductive Output where
  /-- The command broke down. -/
  | breakdown (f : Fault)
  /-- How the command is to be used. -/
  | usage
  /-- The results as JSON text. -/
  | document (text : String)
  /-- Something to know. -/
  | notice (lines : List String)
  /-- The results for a reader. -/
  | report (lines : List String)

structure Outcome where
  exitCode : Nat
  output : Output

/-- What shows texts as markup: it refuses a text whose tags do not fit together. -/
structure Console where
  check : String → Reading Unit

namespace Console

/-- A console that shows every text as it is. -/
def plain : Console := ⟨fun _ => .ok ()⟩

/-- Show some texts, one after the other. -/
def present (console : Console) (texts : List String) : Reading Unit :=
  discard (texts.mapM console.check)

end Console

namespace Outcome

/-- The command did what it was asked. -/
def success (output : Output) : Outcome := ⟨0, output⟩

/-- The request cannot be accepted. -/
def refused (lines : List String) : Outcome := ⟨2, .notice lines⟩

def breakdown (f : Fault) : Outcome := ⟨1, .breakdown f⟩

/-- The lines about a fault in what was asked, if it is one. -/
def refusal? (f : Fault) : Option (List String) :=
  match f, f.family with
  | .invalidPolicy _ errors, _ => some ("Invalid policy:" :: errors.map ("  - " ++ ·))
  | f, .value | f, .transition | f, .file | f, .notFound _ | f, .duplicate => some [f.message]
  | _, _ => none

def inRed (line : String) : String := "[red]" ++ line ++ "[/red]"

/-- The lines about a refusal as markup: the first one is in red. -/
def refusalMarkup : List String → List String
  | [] => []
  | first :: rest => inRed first :: rest

end Outcome

/-! ## Commands -/

namespace Command

/-- Carry on with what was asked, or refuse it. -/
def ifAccepted {α : Type} (console : Console) (asked : Gate α) (carryOn : α → Gate Outcome) :
    Gate Outcome := do
  match ← Gate.attempt asked with
  | .ok a => carryOn a
  | .error f =>
    match Outcome.refusal? f with
    | some lines =>
      console.present (Outcome.refusalMarkup lines)
      return .refused lines
    | none => throw f

def optional (s : Option String) : Value := (s.map Value.str).getD .null

def assessInput (files : Files) (r : AssessRequest) :
    Reading (Inventory × Option BusinessContext) := do
  let inventory ← files.inventory r.inventoryFile
  let context ← r.contextFile.mapM fun path => files.businessContext path r.tenant
  return (inventory, context)

def queueLines (queue : List QueueRow) : List String :=
  queue.map fun row =>
    s!"{row.dependency.ident}  {row.riskScore.rendered}  {row.priority.rendered}  {row.recommendedAction.rendered}"

/-- What a remediation queue shows of names from outside, as markup. -/
def queueMarkup (r : AssessRequest) (queue : List QueueRow) : List String :=
  ("Risk Assessments (" ++ r.tenant ++ ")") :: queue.map (·.dependency.ident)

/-- Assess the dependencies of an inventory. -/
def runAssess (console : Console) (files : Files) (r : AssessRequest) : Gate Outcome :=
  ifAccepted console (assessInput files r) fun (inventory, context) => do
    match context with
    | some c => Gate.setContext c
    | none => pure ()
    let assessments ← inventory.dependencies.mapM fun d =>
      Gate.assess .standard d (inventory.vulnerabilitiesOf d) r.tenant none "system"
    let queue ← Gate.prioritize assessments r.tenant
    if !r.asDocument then
      console.present (queueMarkup r queue)
      return .success (.report (queueLines queue))
    let docs ← Gate.ofReading (assessments.mapM Assessment.toDoc)
    let doc := Value.fields [
      ("assessments", .list docs), ("priorities", .ofRecords QueueRow.toDoc queue)]
    return .success (.document (← Json.ofValue doc))

/-- The templates to evaluate against: those that are named, or all if there are no policies. -/
def templatesOf (r : EvaluateRequest) : List String :=
  if !r.templates.isEmpty then r.templates
  else if r.policiesFile.isSome then []
  else Template.all.map (·.id)

def applyFile (files : Files) (r : EvaluateRequest) : Gate Unit := do
  match r.policiesFile with
  | some path =>
    let policies ← files.policies (← Gate.clock) path
    discard (policies.mapM fun p => Gate.applyPolicy r.tenant (.record p) "system")
  | none => pure ()

/-- Read an inventory, and apply the policies to evaluate it against. -/
def prepare (files : Files) (r : EvaluateRequest) : Gate Inventory := do
  let inventory ← files.inventory r.inventoryFile
  applyFile files r
  discard ((templatesOf r).mapM fun (id : String) => Gate.ensureTemplate r.tenant id "system")
  return inventory

/-- Assess a dependency for its evaluation. -/
def knownRisk (r : EvaluateRequest) (inventory : Inventory) (d : Dependency) :
    Gate (String × KnownRisk) := do
  let a ← Gate.assess .standard d (inventory.vulnerabilitiesOf d) r.tenant none "system"
  return (d.ident, ⟨a.overall, a.level⟩)

/-- What the evaluation of an inventory knows besides its dependencies. -/
def contextOf (r : EvaluateRequest) (inventory : Inventory) (risks : List (String × KnownRisk)) :
    EvaluationContext where
  project := optional r.project
  environment := optional r.environment
  scanId := .null
  buildId := .null
  commitId := .null
  pullRequestId := .null
  vulnerabilities := inventory.vulnerabilities
  risks
  now := none

/-- Evaluate an inventory against the policies of a tenant. -/
def judge (r : EvaluateRequest) (inventory : Inventory) : Gate EnforcementResult := do
  let risks ← inventory.dependencies.mapM (knownRisk r inventory)
  Gate.evaluatePolicies .none inventory.dependencies r.tenant (contextOf r inventory risks)
    fun _ _ => false

def evaluationLines (result : EnforcementResult) : List String :=
  result.evaluations.flatMap fun e =>
    (e.dependencyId.rendered ++ "  " ++ Scale.text e.status) ::
      e.findings.map fun v => "  " ++ v.message.rendered

/-- What a result shows of names and messages from outside, as markup: those of its evaluations, and
then the errors of the dependencies that were skipped. -/
def evaluationMarkup (result : EnforcementResult) : List String :=
  result.evaluations.flatMap (fun e =>
    [e.dependencyId.rendered, "\n".intercalate (e.findings.map (·.message.rendered))]) ++
  result.errors.map fun (id, error) =>
    "  " ++ Outcome.inRed (Value.scalar id).rendered ++ ": " ++ error.rendered

/-- A result as JSON text, or shown to a reader. -/
def resultOutput (console : Console) (r : EvaluateRequest) (result : EnforcementResult) :
    Reading Output := do
  if r.asDocument then return .document (← Json.ofValue (← result.toDoc))
  console.present (evaluationMarkup result)
  return .report (evaluationLines result)

/-- Evaluate an inventory; a blocked dependency shows in the exit code. -/
def runEvaluate (console : Console) (files : Files) (r : EvaluateRequest) : Gate Outcome :=
  ifAccepted console (prepare files r) fun inventory => do
    let result ← judge r inventory
    let output ← resultOutput console r result
    return ⟨if ← result.isBlocked then 1 else 0, output⟩

def templateLines : List String :=
  Template.all.map fun t => s!"{t.id}  {t.name}  {t.category}  {toString t.rules.length}"

def perform (console : Console) (files : Files) : Command → Gate Outcome
  | help => pure (.success .usage)
  | version => pure (.success (.notice ["depgov version 0.1.0"]))
  | init => pure (.success (.notice
    ["Initializing database...", "Database initialized successfully"]))
  | templates => pure (.success (.report templateLines))
  | assess r => runAssess console files r
  | evaluate r => runEvaluate console files r

/-- A command uses the database of its session. -/
def persists : Command → Bool
  | assess r => r.persists
  | evaluate r => r.persists
  | _ => false

end Command

/-! ## Sessions -/

/-- The database that the commands of a session share, with the clock and the ids. -/
structure Session where
  database : GateState

namespace Session

/-- A session with an empty database. -/
def start (now : Timestamp) : Session :=
  ⟨{ GateState.start .documents now {} with logsEvents := true }⟩

/-- A gate that forgets its results, with the clock and the ids of a session. -/
def scratch (s : Session) : GateState :=
  { GateState.start .memory s.database.now s.database.ids with logsEvents := true }

def runOn (console : Console) (files : Files) (command : Command) (gate : GateState) :
    Outcome × GateState :=
  match (command.perform console files).run.run gate with
  | (.ok outcome, gate) => (outcome, gate)
  | (.error f, gate) => (.breakdown f, gate)

/-- Run the command that some arguments give, in front of a console. -/
def runWith (console : Console) (files : Files) (args : List String) (s : Session) :
    Outcome × Session :=
  match Command.ofArguments? args with
  | none => (⟨2, .usage⟩, s)
  | some command =>
    if command.persists then
      let (outcome, database) := runOn console files command s.database
      (outcome, ⟨database⟩)
    else
      let (outcome, gate) := runOn console files command s.scratch
      (outcome, ⟨{ s.database with ids := gate.ids }⟩)

/-- Run the command that some arguments give. -/
def run (files : Files) (args : List String) (s : Session) : Outcome × Session :=
  s.runWith .plain files args

end Session
end SupplyGate.CommandLine
