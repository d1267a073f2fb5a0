import SupplyGate.Yaml.Layout
import SupplyGate.Yaml.Node
import SupplyGate.Yaml.Typing
/-!
YAML documents as values. `Value.ofYaml` reads the only document of a text. A map takes the entries
of maps that are merged into it, unless it has the key itself; of two entries with one key the later
one holds. Of several faults in a document, the one nearest to its root is told.
-/
namespace SupplyGate.Yaml

/-- A fault, and how deep it lies in the document. -/
structure Flaw where
  depth : Nat
  fault : Fault

/-- What is read at some depth. -/
abbrev Deep := Except Flaw

/-- Two parts of a document; of two flaws the one that lies less deep is told, or the first one. -/
def both {α β : Type} : Deep α → Deep β → Deep (α × β)
  | .ok a, .ok b => .ok (a, b)
  | .error e, .error f => .error (if f.depth < e.depth then f else e)
  | .error e, .ok _ => .error e
  | .ok _, .error f => .error f

def atDepth {α : Type} (depth : Nat) : Reading α → Deep α
  | .ok a => .ok a
  | .error fault => .error ⟨depth, fault⟩

namespace Node

def kind? (tag : Option String) (plain : Bool) (text : String) : Option Kind :=
  match tag with
  | some t => Kind.ofTag? t
  | none => some (if plain then Kind.ofPlain text else .str)

/-- A node is the key under which maps are merged. -/
def isMerge : Node → Bool
  | .scalar tag plain text => kind? tag plain text == some .merge
  | _ => false

def entries? : Node → Option (List (Node × Node))
  | .map _ es => some es
  | _ => none

/-- The entries that a merged node brings: a map its own, a list those of its maps, the last
first. -/
def mergedEntries : Node → Reading (List (Node × Node))
  | .map _ es => .ok es
  | .list _ items =>
    match items.mapM entries? with
    | some maps => .ok maps.reverse.flatten
    | none => throw .unreadable
  | _ => throw .unreadable

mutual

/-- A node with all merges carried out. -/
def merged : Node → Reading Node
  | .scalar tag plain text => .ok (.scalar tag plain text)
  | .list tag items => do return .list tag (← mergedItems items)
  | .map tag entries => do
    let (brought, own) ← mergedMap entries
    return .map tag (brought ++ own)

/-- The items of a list with all merges carried out. -/
def mergedItems : List Node → Reading (List Node)
  | [] => .ok []
  | n :: rest => do return (← merged n) :: (← mergedItems rest)

/-- The entries that are merged into a map, and its own. -/
def mergedMap : List (Node × Node) → Reading (List (Node × Node) × List (Node × Node))
  | [] => .ok ([], [])
  | (k, v) :: rest => do
    let v ← merged v
    let (brought, own) ← mergedMap rest
    if isMerge k then return ((← mergedEntries v) ++ brought, own)
    return (brought, (k, v) :: own)

end

def scalarOf (tag : Option String) (plain : Bool) (text : String) : Reading Scalar :=
  match kind? tag plain text with
  | some k => k.read text
  | none => throw .unreadable

/-- A node as a key; a collection is none. -/
def keyOf : Node → Reading Scalar
  | .scalar tag plain text =>
    if kind? tag plain text == some .equals then .ok (.str text) else scalarOf tag plain text
  | _ => throw .unreadable

/-- A collection may have the tag of its own kind. -/
def fits (tag : Option String) (own : String) : Reading Unit :=
  match tag with
  | none => .ok ()
  | some t => if t == "tag:yaml.org,2002:" ++ own then .ok () else throw .unreadable

mutual

/-- The value of a node inside a collection of some depth. -/
def value (depth : Nat) : Node → Deep Value
  | .scalar tag plain text => do return .scalar (← atDepth depth (scalarOf tag plain text))
  | .list tag items => do
    let (_, values) ← both (atDepth depth (fits tag "seq")) (itemValues (depth + 1) items)
    return .list values
  | .map tag entries => do
    let (_, pairs) ← both (atDepth depth (fits tag "map")) (entryValues (depth + 1) entries)
    return .map (Value.overlay [] pairs)

def itemValues (depth : Nat) : List Node → Deep (List Value)
  | [] => .ok []
  | n :: rest => do
    let (v, vs) ← both (value depth n) (itemValues depth rest)
    return v :: vs

/-- The keys and values of some entries. -/
def entryValues (depth : Nat) : List (Node × Node) → Deep (List (Scalar × Value))
  | [] => .ok []
  | (k, n) :: rest => do
    let entry := both (atDepth depth (keyOf k)) (value depth n)
    let ((k, v), kvs) ← both entry (entryValues depth rest)
    return (k, v) :: kvs

end

end Node
end SupplyGate.Yaml

namespace SupplyGate

def Value.ofYaml (text : String) : Reading Value := do
  let node ← Yaml.Node.ofTokens (← Yaml.Token.ofText text)
  match (← node.merged).value 0 with
  | .ok v => .ok v
  | .error flaw => .error flaw.fault

end SupplyGate
