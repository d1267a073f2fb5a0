import SupplyGate.Store.Documents
/-!
Record stores: one interface over stores in memory and stores of documents.
-/
namespace SupplyGate

inductive Store (α : Type) where
  | memory (s : MemoryStore α)
  | documents (s : DocumentStore)

namespace Store

variable {α : Type} [Stored α]

def get (now : Timestamp) (id : Value) : Store α → Reading (Option α)
  | .memory s => s.get id
  | .documents s => s.get now id

/-- The store with a record put in; it replaces the one with its id. -/
def put (a : α) : Store α → Reading (Store α)
  | .memory s => .memory <$> s.put a
  | .documents s => .documents <$> s.put a

/-- The store with a record added; its id must be free. -/
def add (a : α) : Store α → Reading (Store α)
  | .memory s => .memory <$> s.add a
  | .documents s => .documents <$> s.add a

/-- Whether there was a record with an id, and the store without it. -/
def delete (id : Value) : Store α → Reading (Bool × Store α)
  | .memory s => do let (found, s) ← s.delete id; return (found, .memory s)
  | .documents s => do let (found, s) ← s.delete id; return (found, .documents s)

/-- The records of a tenant, in the order in which they came in. -/
def ofTenant (now : Timestamp) (tenant : Value) : Store α → Reading (List α)
  | .memory s => .ok (s.ofTenant tenant)
  | .documents s => s.ofTenant now tenant

/-- All records, in the order in which they came in. -/
def all (now : Timestamp) : Store α → Reading (List α)
  | .memory s => .ok s.all
  | .documents s => s.all now

/-- The record that a second key stands for, after a change; or else this record, added under the
second key. -/
def getOrAdd (now : Timestamp) (key : String) (a : α) (change : α → α) :
    Store α → Reading (Found α × Store α)
  | .memory s => do let (found, s) ← s.getOrAdd key a change; return (found, .memory s)
  | .documents s => do let (found, s) ← s.getOrAdd now key a change; return (found, .documents s)

end Store

/-- Where the stores of a service keep their records. -/
inductive Backend where
  | memory
  | documents
  deriving DecidableEq, Repr

def Backend.store {α : Type} : Backend → Store α
  | .memory => .memory .empty
  | .documents => .documents .empty

end SupplyGate
