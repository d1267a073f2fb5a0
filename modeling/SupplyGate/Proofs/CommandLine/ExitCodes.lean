import SupplyGate.Proofs.CommandLine.Loading
import SupplyGate.Proofs.Gate.Faults
import SupplyGate.Proofs.Gate.Totals
import SupplyGate.Proofs.Sample

/-!
# The exit code of an evaluation

An evaluation is to end with 1 exactly if it is completed and blocks a dependency, with 0 exactly if it is
completed and blocks none, and with 2 if it cannot be completed. It does so unless it breaks down
(`Breaks`), which gives 1 as well.
-/

namespace SupplyGate.CommandLine

open Gate Reading

variable {console : Console} {files : Files} {r : EvaluateRequest} {s : GateState}

/-- The evaluation that was asked for is completed with a result. -/
def Completes (files : Files) (r : EvaluateRequest) (s : GateState) (result : EnforcementResult) : Prop :=
  ∃ inventory t u, Returns (Command.prepare files r) s inventory t ∧ Returns (Command.judge r inventory) t result u

/-- An exit code says whether the evaluation was completed, and then whether a dependency is blocked. -/
structure Faithful (files : Files) (r : EvaluateRequest) (s : GateState) (exitCode : Nat) : Prop where
  blocked : exitCode = 1 ↔ ∃ result, Completes files r s result ∧ result.isBlocked = .ok true
  passed : exitCode = 0 ↔ ∃ result, Completes files r s result ∧ result.isBlocked = .ok false
  refused : (¬ ∃ result, Completes files r s result) → exitCode = 2

/-- A command that breaks down ends with 1, any other with the code of its outcome. -/
def exitCode (x : Gate Outcome) (s : GateState) : Nat :=
  match outcome x s with
  | (.ok o, _) => o.exitCode
  | (.error _, _) => 1

theorem Completes.unique {result result' : EnforcementResult} (h : Completes files r s result)
    (h' : Completes files r s result') : result = result' := by
  obtain ⟨inventory, t, u, hp, hj⟩ := h
  obtain ⟨inventory', t', u', hp', hj'⟩ := h'
  rw [Returns, hp] at hp'
  cases hp'
  rw [Returns, hj] at hj'
  cases hj'
  rfl

/-- The result of a completed evaluation says whether a dependency is blocked: if an evaluation is a
violation. -/
theorem Completes.isBlocked {result : EnforcementResult} (h : Completes files r s result) :
    result.isBlocked = .ok (result.evaluations.any (·.status == .violation)) := by
  obtain ⟨inventory, t, u, -, hj⟩ := h
  obtain ⟨risks, v, -, he⟩ := returns_bind.mp hj
  obtain ⟨ranked, w, -, he⟩ := returns_bind.mp he
  obtain ⟨-, judged, executed, hmade⟩ :=
    ((timed_runLaw _ _).yields_evaluateAll_of fun _ _ _ => yields_runTurns_made).returns rfl he
  exact hmade.agrees.isBlocked

/-- The step that applies a policy of a file. -/
def applying (r : EvaluateRequest) (p : Policy) : Gate Policy := applyPolicy r.tenant (.record p) "system"

/-- The step that sees to the policy of a template. -/
def ensuring (r : EvaluateRequest) (id : String) : Gate Policy := ensureTemplate r.tenant id "system"

/-- How an evaluation breaks down. -/
inductive Breaks (console : Console) (files : Files) (r : EvaluateRequest) (s : GateState) : Prop where
  /-- The text of the inventory is no document. -/
  | inventoryText (text : Reading.Tells Fault.Escapes (files.document r.inventoryFile))
  /-- An entry of the inventory breaks the reading down. -/
  | inventoryEntry {doc : Value} {items : List Value} (document : files.document r.inventoryFile = .ok doc)
      (listed : doc.Lists "dependencies" items) (entry : ComesTo Inventory.Reads Inventory.Breaks items)
  /-- The text of the policies is no document. -/
  | policiesText {inventory : Inventory} {path : String} (read : files.inventory r.inventoryFile = .ok inventory)
      (named : r.policiesFile = some path) (text : Reading.Tells Fault.Escapes (files.document path))
  /-- An entry of the policies breaks the reading down. -/
  | policiesEntry {inventory : Inventory} {path : String} {doc : Value} {items : List Value}
      (read : files.inventory r.inventoryFile = .ok inventory) (named : r.policiesFile = some path)
      (document : files.document path = .ok doc) (listed : doc.Lists "policies" items)
      (entry : ComesTo (Policy.Reads s.now) (Policy.Breaks s.now) items)
  /-- A policy cannot be applied, and not for what is told as a refusal. -/
  | policy {inventory : Inventory} {path : String} {ps : List Policy}
      (read : files.inventory r.inventoryFile = .ok inventory) (named : r.policiesFile = some path)
      (policies : files.policies s.now path = .ok ps) (apply : Reaches (applying r) Fault.Escapes ps s)
  /-- The policy of a template cannot be had, and not for what is told as a refusal. -/
  | template {inventory : Inventory} {u : Unit} {t : GateState}
      (read : files.inventory r.inventoryFile = .ok inventory)
      (applied : Returns (Command.applyFile files r) s u t)
      (ensure : Reaches (ensuring r) Fault.Escapes (Command.templatesOf r) t)
  /-- The console refuses to show what was wrong. -/
  | refusal {f g : Fault} {t : GateState} {lines : List String} (refused : Fails (Command.prepare files r) s f t)
      (told : Outcome.refusal? f = some lines) (shown : console.present (Outcome.refusalMarkup lines) = .error g)
  /-- A dependency cannot be assessed. -/
  | assessing {inventory : Inventory} {t : GateState} (prepared : Returns (Command.prepare files r) s inventory t)
      (assess : Reaches (Command.knownRisk r inventory) (fun _ => True) inventory.dependencies t)
  /-- The dependencies cannot be evaluated. -/
  | evaluating {inventory : Inventory} {risks : List (String × KnownRisk)} {t u : GateState}
      (prepared : Returns (Command.prepare files r) s inventory t)
      (assessed : Returns (inventory.dependencies.mapM (Command.knownRisk r inventory)) t risks u)
      (evaluate : Gate.Tells (fun _ => True) (evaluatePolicies .none inventory.dependencies r.tenant
        (Command.contextOf r inventory risks) fun _ _ => false) u)
  /-- No dependency is blocked, but the result cannot be shown. -/
  | result {result : EnforcementResult} {g : Fault} (completed : Completes files r s result)
      (passed : result.isBlocked = .ok false) (shown : Command.resultOutput console r result = .error g)

/-- The gate that a command of a session runs on: the database of the session, or one that is forgotten. -/
def Session.gate (s : Session) (r : EvaluateRequest) : GateState := if r.persists then s.database else s.scratch

section Sample

end Sample

end SupplyGate.CommandLine
