import SupplyGate.Json.Text
import SupplyGate.Store.Memory
/-!
Stores of documents. A row keeps the document of a record beside its id, its tenant and perhaps a
second key; every read builds the record from its document again, so that it shares nothing with
what was put in. A row that breaks a constraint is refused, and so is a document with days or
timestamps in it; numbers are kept whatever their length.
-/
namespace SupplyGate

/-- A row: the document of a record and what it can be found by. -/
structure Row where
  ident : String
  tenant : String
  key : Option String
  doc : Value

structure DocumentStore where
  rows : List Row

namespace DocumentStore

/-- A store without rows. -/
def empty : DocumentStore := ⟨[]⟩

/-- A scalar as a text column holds it. There is no column text for null. -/
def scalarColumn? : Scalar → Option String
  | .null => none
  | .bool b => some (if b then "1" else "0")
  | .int n => some (toString n)
  | .float x => some (Number.floatText x)
  | .str s => some s
  | .time t => some (Value.time t).rendered
  | .date d => some d.format

/-- A value as a text column holds it. -/
def column (v : Value) : Reading String := do
  match scalarColumn? (← v.asScalar) with
  | some s => return s
  | none => throw .rowConflict

/-- A key of a written map: a text. -/
def writtenKey : Scalar → Reading Scalar
  | .str s => .ok (.str s)
  | .time _ | .date _ => .error .unwritableRow
  | s => .ok (.str (Json.scalarText s))

mutual

/-- A document as it is written and read again: every key is a text, and there are no days and no
timestamps. -/
def written : Value → Reading Value
  | .time _ | .date _ => .error .unwritableRow
  | .scalar s => .ok (.scalar s)
  | .list items => do return .list (← writtenItems items)
  | .map entries => do return .map (← writtenEntries [] entries)

def writtenItems : List Value → Reading (List Value)
  | [] => .ok []
  | v :: rest => do return (← written v) :: (← writtenItems rest)

/-- The entries of a map as they are written, put over those before them. -/
def writtenEntries (before : List (Scalar × Value)) :
    List (Scalar × Value) → Reading (List (Scalar × Value))
  | [] => .ok before
  | (k, v) :: rest => do
    let k ← writtenKey k
    writtenEntries (Value.insert k (← written v) before) rest

end

def row? (s : DocumentStore) (ident : String) : Option Row := s.rows.find? (·.ident = ident)

/-- The row with an id replaced. -/
def mapRow (s : DocumentStore) (ident : String) (f : Row → Row) : DocumentStore :=
  ⟨s.rows.map fun r => if r.ident = ident then f r else r⟩

variable {α : Type} [Stored α]

/-- The document of a record as it is written. -/
def docOf (a : α) : Reading Value := do written (← Stored.toDoc a)

def get (s : DocumentStore) (now : Timestamp) (id : Value) : Reading (Option α) := do
  match (scalarColumn? (← id.asScalar)).bind s.row? with
  | some row => some <$> Stored.ofDoc now row.doc
  | none => return none

def rowOf (a : α) (key : Option String) : Reading Row := do
  let doc ← docOf a
  return ⟨← column (Stored.ident a), ← column (Stored.tenant a), key, doc⟩

/-- The store with a record put in; it replaces document and tenant of the row with its id. -/
def put (s : DocumentStore) (a : α) : Reading DocumentStore := do
  let row ← rowOf a none
  match s.row? row.ident with
  | some _ => return s.mapRow row.ident fun r => { r with doc := row.doc, tenant := row.tenant }
  | none => return ⟨s.rows ++ [row]⟩

/-- The store with a record added; its id must be free. -/
def add (s : DocumentStore) (a : α) : Reading DocumentStore := do
  let taken := Fault.naming .duplicate (Stored.ident a)
  match scalarColumn? (← (Stored.ident a).asScalar) with
  | none => do
    discard (docOf a)
    throw taken
  | some ident =>
    if (s.row? ident).isSome then throw taken
    return ⟨s.rows ++ [← rowOf a none]⟩

/-- Whether there was a record with an id, and the store without it. -/
def delete (s : DocumentStore) (id : Value) : Reading (Bool × DocumentStore) := do
  match scalarColumn? (← id.asScalar) with
  | none => return (false, s)
  | some ident =>
    if (s.row? ident).isSome then return (true, ⟨s.rows.filter (·.ident ≠ ident)⟩)
    return (false, s)

def ofTenant (s : DocumentStore) (now : Timestamp) (tenant : Value) : Reading (List α) := do
  match scalarColumn? (← tenant.asScalar) with
  | none => return []
  | some tenant => (s.rows.filter (·.tenant = tenant)).mapM fun r => Stored.ofDoc now r.doc

def all (s : DocumentStore) (now : Timestamp) : Reading (List α) :=
  s.rows.mapM fun r => Stored.ofDoc now r.doc

/-- The record that a second key stands for, after a change; or else this record, added under the
second key. -/
def getOrAdd (s : DocumentStore) (now : Timestamp) (key : String) (a : α) (change : α → α) :
    Reading (Found α × DocumentStore) := do
  match s.rows.find? (·.key = some key) with
  | some row => do
    let old : α ← Stored.ofDoc now row.doc
    let doc ← docOf (change old)
    return (⟨change old, some old⟩, s.mapRow row.ident fun r => { r with doc })
  | none => do
    let row ← rowOf a (some key)
    if (s.row? row.ident).isSome then throw .rowConflict
    return (⟨a, none⟩, ⟨s.rows ++ [row]⟩)

end DocumentStore
end SupplyGate
