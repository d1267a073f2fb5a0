import SupplyGate.Event.Basic
import SupplyGate.Risk.Factor
import SupplyGate.Store.Basic
/-!
The state of a gate: its clock and id counters, its stores, the events it has published and the
calls that its collaborators have received. An operation of the gate is a `Gate` step: it ends with
a result or a fault, and in either case with the state that it leaves behind.
-/
namespace SupplyGate

inductive CollaboratorCall where
  | notify (channels recipients : List Value) (violationId : Value)
  | createIssue (tracker : IssueTracker) (issue : Value)

structure GateState where
  now : Timestamp
  ids : Ids
  events : List Event
  calls : List CollaboratorCall
  /-- Events are written to a log as they are published. -/
  logsEvents : Bool
  policies : Store Policy
  violations : Store Violation
  evaluations : Store EnforcementResult
  strategies : Store UpdateStrategy
  assessments : Store Assessment
  contexts : Store BusinessContext
  criteria : Store Criteria

/-- A gate with empty stores. -/
def GateState.start (backend : Backend) (now : Timestamp) (ids : Ids) : GateState where
  now
  ids
  events := []
  calls := []
  logsEvents := false
  policies := backend.store
  violations := backend.store
  evaluations := backend.store
  strategies := backend.store
  assessments := backend.store
  contexts := backend.store
  criteria := backend.store

/-- An operation of a gate. -/
abbrev Gate := ExceptT Fault (StateM GateState)

/-- One of the stores of a gate. -/
structure Shelf (α : Type) where
  read : GateState → Store α
  write : GateState → Store α → GateState

namespace Shelf

def policies : Shelf Policy := ⟨(·.policies), fun s t => { s with policies := t }⟩
def violations : Shelf Violation := ⟨(·.violations), fun s t => { s with violations := t }⟩
def evaluations : Shelf EnforcementResult := ⟨(·.evaluations), fun s t => { s with evaluations := t }⟩
def strategies : Shelf UpdateStrategy := ⟨(·.strategies), fun s t => { s with strategies := t }⟩
def assessments : Shelf Assessment := ⟨(·.assessments), fun s t => { s with assessments := t }⟩
def contexts : Shelf BusinessContext := ⟨(·.contexts), fun s t => { s with contexts := t }⟩
def criteria : Shelf Criteria := ⟨(·.criteria), fun s t => { s with criteria := t }⟩

end Shelf

namespace Gate

/-- A reading as a step that leaves the state alone. -/
def ofReading {α : Type} : Reading α → Gate α
  | .ok a => pure a
  | .error f => throw f

instance : MonadLift Reading Gate := ⟨ofReading⟩

/-- Numbered steps as a step that uses up ids. -/
def ofNumbering {α : Type} (x : Numbering α) : Gate α := do
  let s ← get
  let (result, ids) := x.run.run s.ids
  set { s with ids }
  ofReading result

/-- The time of the clock. -/
def clock : Gate Timestamp := do return (← get).now

def fresh (kind : IdKind) : Gate Value := ofNumbering (Numbering.fresh kind)

/-- The value, or a fresh id where it stands for nothing. -/
def orFresh (kind : IdKind) (v : Value) : Gate Value := if v.truthy then pure v else fresh kind

/-- Publish an event. An event that the log cannot write is refused. -/
def publish (e : Event) : Gate Unit := do
  if (← get).logsEvents then discard (ofReading e.payload.toJson)
  modify fun s => { s with events := s.events ++ [e] }

/-- Tell the program's own log of some values, which have to be ones that can be written. -/
def logValues (values : List Value) : Gate Unit := ofReading (Value.checkAll values)

/-- A step together with how it ends: a fault is a result. -/
def attempt {α : Type} (x : Gate α) : Gate (Reading α) := tryCatch (Except.ok <$> x) fun f => pure (.error f)

/-- Take steps one after the other, also after one that fails; then the first failure counts. -/
def takeAll {α β : Type} (f : α → Gate β) (as : List α) : Gate (List β) := do
  let endings ← as.mapM fun a => attempt (f a)
  ofReading (endings.mapM id)

/-- Note a call to a collaborator. -/
def noteCall (c : CollaboratorCall) : Gate Unit := modify fun s => { s with calls := s.calls ++ [c] }

/-! ## Stores -/

variable {α : Type} [Stored α]

/-- The record with an id. -/
def find (shelf : Shelf α) (id : Value) : Gate (Option α) := do
  let s ← get
  ofReading ((shelf.read s).get s.now id)

/-- Put a record in; it replaces the one with its id. -/
def keep (shelf : Shelf α) (a : α) : Gate Unit := do
  let s ← get
  set (shelf.write s (← ofReading ((shelf.read s).put a)))

/-- Add a record; its id must be free. -/
def add (shelf : Shelf α) (a : α) : Gate Unit := do
  let s ← get
  set (shelf.write s (← ofReading ((shelf.read s).add a)))

/-- Delete the record with an id, if there is one. -/
def remove (shelf : Shelf α) (id : Value) : Gate Unit := do
  let s ← get
  let (_, t) ← ofReading ((shelf.read s).delete id)
  set (shelf.write s t)

/-- The records of a tenant, in the order in which they came in. -/
def ofTenant (shelf : Shelf α) (tenant : Value) : Gate (List α) := do
  let s ← get
  ofReading ((shelf.read s).ofTenant s.now tenant)

/-- All records, in the order in which they came in. -/
def all (shelf : Shelf α) : Gate (List α) := do
  let s ← get
  ofReading ((shelf.read s).all s.now)

/-- Change the record that a second key stands for, or add a record under the second key. -/
def findOrAdd (shelf : Shelf α) (key : String) (a : α) (change : α → α) : Gate (Found α) := do
  let s ← get
  let (found, t) ← ofReading ((shelf.read s).getOrAdd s.now key a change)
  set (shelf.write s t)
  return found

end Gate
end SupplyGate
