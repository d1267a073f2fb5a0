import SupplyGate.Gate.Evaluator
/-!
Runs whose turns go on side by side. The turn of a dependency pauses while a collaborator is asked, and other
turns go on meanwhile. A run waits for all of its turns, but the first one to fail ends it: the others are left
to go on by themselves, and may still do so when the run has told of its failure.

A schedule says whose stretch comes next. Any number of turns may be on their way here, and a turn may pause
after each of its steps, so the schedules that the program can have, whatever its limit on turns at a time, are
among those here. With the empty schedule the turns are taken one after the other.
-/
namespace SupplyGate

/-- A step that pauses: it has ended, or its next stretch changes the state, and the rest follows from the
state as it was before. -/
inductive Task (α : Type) where
  | ended (r : Reading α)
  | stretch (change : GateState → GateState) (rest : GateState → Task α)

namespace Task

variable {α β : Type}

/-- A step in one stretch. -/
def ofGate (x : Gate α) : Task α :=
  .stretch (fun s => (x.run.run s).2) fun s => .ended (x.run.run s).1

def bind (t : Task α) (f : α → Task β) : Task β :=
  match t with
  | .ended (.ok a) => f a
  | .ended (.error e) => .ended (.error e)
  | .stretch change rest => .stretch change fun s => (rest s).bind f

def tryCatch (t : Task α) (handle : Fault → Task α) : Task α :=
  match t with
  | .ended (.ok a) => .ended (.ok a)
  | .ended (.error e) => handle e
  | .stretch change rest => .stretch change fun s => (rest s).tryCatch handle

instance : Monad Task where
  pure a := .ended (.ok a)
  bind := bind

instance : MonadExceptOf Fault Task where
  throw e := .ended (.error e)
  tryCatch := tryCatch

instance : MonadLift Gate Task := ⟨ofGate⟩

def fault? : Task α → Option Fault
  | .ended (.error e) => some e
  | _ => none

/-- All stretches of a task, one after the other. -/
def run : Task α → Gate α
  | .ended r => Gate.ofReading r
  | .stretch change rest => do
    let s ← get
    set (change s)
    (rest s).run

/-- The next stretch of the task at a place, if it has not ended. -/
def goOn (i : Nat) (tasks : List (Task α)) (s : GateState) : List (Task α) × GateState :=
  match tasks[i]? with
  | some (.stretch change rest) => (tasks.set i (rest s), change s)
  | _ => (tasks, s)

end Task

/-! ## Turns on their way -/

open Gate

/-- A gate, and the turns that failed runs have left. -/
structure World where
  gate : GateState
  left : List (Task (Dependency × Turn))

/-- A step of a gate at which turns may be left. -/
abbrev Joint := ExceptT Fault (StateM World)

/-- Whose stretch comes next: a turn of the run, or one that was left before. -/
inductive Pick where
  | own (i : Nat)
  | left (i : Nat)

/-- The turns of a run on their way, and the first failure among them. -/
structure Gathering where
  world : World
  own : List (Task (Dependency × Turn))
  failure : Option Fault

/-- A turn that was left goes on. -/
def World.goOn (w : World) (i : Nat) : World :=
  let (left, gate) := Task.goOn i w.left w.gate
  { gate, left }

namespace Gathering

/-- A turn goes on. -/
def goOn (g : Gathering) : Pick → Gathering
  | .left i => { g with world := g.world.goOn i }
  | .own i =>
    let (own, gate) := Task.goOn i g.own g.world.gate
    { world := { g.world with gate }, own, failure := g.failure.or (own[i]?.bind Task.fault?) }

end Gathering

namespace Joint

def ofGate {α : Type} (x : Gate α) : Joint α := ExceptT.mk fun w =>
  let (r, gate) := x.run.run w.gate
  (r, { w with gate })

instance : MonadLift Gate Joint := ⟨ofGate⟩

/-- Turns go on side by side. Once the schedule is used up, a failure among them is known, and the turns are
left; or there is none, and they go on to their ends. -/
def gather (schedule : List Pick) (turns : List (Task (Dependency × Turn))) :
    Joint (List (Dependency × Turn)) := do
  let g := schedule.foldl Gathering.goOn ⟨← getThe World, turns, none⟩
  set g.world
  match g.failure with
  | none => takeAll Task.run g.own
  | some e =>
    modifyThe World fun w => { w with left := w.left ++ g.own }
    throw e

/-- The turns of a run, side by side, and its result. -/
def runTurns (schedule : List Pick) (others : Collaborators) (evaluationId tenantId : Value)
    (policies : List Policy) (c : EvaluationContext) (cancel : Cancellation) (before : Nat)
    (start : Timestamp) (dependencies : List Dependency) : Joint EnforcementResult := do
  let active ← ofReading (Policy.active (policies.filter (·.tenantId.same tenantId)))
  let turns ← gather schedule
    (dependencies.zipIdx.map (turn others evaluationId tenantId active c cancel before))
  conclude evaluationId tenantId active start dependencies turns

/-- Evaluate a batch of dependencies side by side against the policies of a tenant among some policies. -/
def evaluateAll (schedule : List Pick) (others : Collaborators) (dependencies : List Dependency)
    (tenantId : Value) (policies : List Policy) (c : EvaluationContext) (cancel : Cancellation) :
    Joint EnforcementResult := do
  let evaluationId ← fresh .evaluation
  let start ← clock
  let before := (← getThe World).gate.events.length
  telling evaluationId tenantId dependencies.length
    (runTurns schedule others evaluationId tenantId policies c cancel before start dependencies)

end Joint
end SupplyGate
