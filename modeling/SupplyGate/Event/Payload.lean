import SupplyGate.Json.Text
/-!
Payloads of events: values, counts, sets, texts without a form of their own, and records. A record
is known by its id, and written as its document. There are never so many things that their count
could not be written.
-/
namespace SupplyGate

/-- What an event carries. -/
inductive Payload where
  | scalar (s : Scalar)
  /-- How many things there are. -/
  | count (n : Scalar)
  /-- Something that is written as its text. -/
  | plainText (s : String)
  /-- A set, written as a sorted list. -/
  | set (members : List Value)
  /-- A record, by its id and its document. -/
  | record (id : Value) (doc : Reading Value)
  | list (items : List Payload)
  | map (entries : List (Scalar × Payload))

namespace Payload

mutual

def ofValue : Value → Payload
  | .scalar s => .scalar s
  | .list items => .list (ofItems items)
  | .map entries => .map (ofEntries entries)

def ofItems : List Value → List Payload
  | [] => []
  | v :: rest => ofValue v :: ofItems rest

/-- The entries of a map as payloads. -/
def ofEntries : List (Scalar × Value) → List (Scalar × Payload)
  | [] => []
  | (k, v) :: rest => (k, ofValue v) :: ofEntries rest

end

instance : Coe Value Payload := ⟨ofValue⟩

/-- A counted number as a payload. -/
def ofCount : Value → Payload
  | .scalar n => .count n
  | v => ofValue v

/-- A payload with named parts. -/
def fields (entries : List (String × Payload)) : Payload :=
  .map (entries.map fun (k, p) => (.str k, p))

/-- A member of a set is put before the first one that is not below it; members have to be
comparable. -/
def place (v : Value) : List Value → Reading (List Value)
  | [] => .ok [v]
  | w :: rest => do
    if ← v.less w then return v :: w :: rest
    return w :: (← place v rest)

/-- The members of a set in order, each once. -/
def sorted (members : List Value) : Reading (List Value) := do
  let distinct := members.foldl (fun seen v => if v.elem seen then seen else seen ++ [v]) []
  distinct.foldlM (fun sofar v => place v sofar) []

def written (members : List Value) : Reading String := Json.ofValue (.list members)

mutual

def toJson : Payload → Reading String
  | .scalar s => Json.ofScalar s
  | .count n => .ok (Json.scalarText n)
  | .plainText s => .ok (Json.quote s)
  | .set members => do written (← sorted members)
  | .record _ doc => do Json.ofValue (← doc)
  | .list items => do return Json.bracketed (← itemsToJson items)
  | .map entries => do return Json.braced (← entriesToJson entries)

/-- The items of a list as JSON text. -/
def itemsToJson : List Payload → Reading (List String)
  | [] => .ok []
  | p :: rest => do return (← toJson p) :: (← itemsToJson rest)

/-- The entries of a map as JSON text. -/
def entriesToJson : List (Scalar × Payload) → Reading (List String)
  | [] => .ok []
  | (k, p) :: rest => do
    let key ← Json.ofKey k
    return (key ++ ": " ++ (← toJson p)) :: (← entriesToJson rest)

end

end Payload
end SupplyGate
