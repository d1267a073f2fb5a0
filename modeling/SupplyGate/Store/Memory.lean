import SupplyGate.Store.Stored
/-!
Stores in memory. Records stand in the order in which their ids first came in, and a second key of a
record is kept in an index beside them. `getOrAdd` finds a record by its second key or adds one;
deleting a record frees its keys.
-/
namespace SupplyGate

/-- What finding or adding a record gave: the record as it is stored now, and as it was before. -/
structure Found (α : Type) where
  record : α
  previous : Option α

/-- Records by id, and the ids that second keys stand for. -/
structure MemoryStore (α : Type) where
  records : List (Key × α)
  index : List (String × Key)

namespace MemoryStore

variable {α : Type}

/-- A store without records. -/
def empty : MemoryStore α := ⟨[], []⟩

/-- The records with the one under a key replaced, or added at the end. -/
def replace (k : Key) (a : α) : List (Key × α) → List (Key × α)
  | [] => [(k, a)]
  | (l, b) :: rest => if l = k then (k, a) :: rest else (l, b) :: replace k a rest

def lookup (s : MemoryStore α) (k : Key) : Option α := s.records.lookup k

/-- The store with a record put under a key. -/
def store (s : MemoryStore α) (k : Key) (a : α) : MemoryStore α :=
  { s with records := replace k a s.records }

/-- The store without the record under a key, and without the second keys of it. -/
def erase (s : MemoryStore α) (k : Key) : MemoryStore α where
  records := s.records.filter fun (l, _) => l ≠ k
  index := s.index.filter fun (_, l) => l ≠ k

/-- An id that stands for nothing cannot be found by a second key. -/
def isEmptyKey : Key → Bool
  | .null => true
  | .str s => s == ""
  | .number x => x == .finite 0
  | _ => false

/-- The record that a second key stands for, with its own key. -/
def byIndex (s : MemoryStore α) (key : String) : Option (Key × α) := do
  let k ← s.index.lookup key
  if isEmptyKey k then none
  return (k, ← s.lookup k)

def setIndex (key : String) (k : Key) : List (String × Key) → List (String × Key)
  | [] => [(key, k)]
  | (s, l) :: rest => if s = key then (s, k) :: rest else (s, l) :: setIndex key k rest

variable [Stored α]

def keyOf (a : α) : Reading Key := (Stored.ident a).asKey

def get (s : MemoryStore α) (id : Value) : Reading (Option α) := do return s.lookup (← id.asKey)

/-- The store with a record put in; it replaces the one with its id. -/
def put (s : MemoryStore α) (a : α) : Reading (MemoryStore α) := do return s.store (← keyOf a) a

/-- The store with a record added; its id must be free. -/
def add (s : MemoryStore α) (a : α) : Reading (MemoryStore α) := do
  let k ← keyOf a
  if (s.lookup k).isSome then throw (.naming .duplicate (Stored.ident a))
  return s.store k a

/-- Whether there was a record with an id, and the store without it. -/
def delete (s : MemoryStore α) (id : Value) : Reading (Bool × MemoryStore α) := do
  let k ← id.asKey
  if (s.lookup k).isSome then return (true, s.erase k)
  return (false, s)

def ofTenant (s : MemoryStore α) (tenant : Value) : List α :=
  (s.records.map (·.2)).filter fun a => (Stored.tenant a).same tenant

def all (s : MemoryStore α) : List α := s.records.map (·.2)

/-- The record that a second key stands for, after a change; or else this record, added under the
second key. -/
def getOrAdd (s : MemoryStore α) (key : String) (a : α) (change : α → α) :
    Reading (Found α × MemoryStore α) :=
  match s.byIndex key with
  | some (_, old) => do
    let s ← s.put (change old)
    return (⟨change old, some old⟩, s)
  | none => do
    let t ← s.add a
    return (⟨a, none⟩, { t with index := setIndex key (← keyOf a) t.index })

end MemoryStore
end SupplyGate
