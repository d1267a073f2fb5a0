import SupplyGate.Value.Read
import SupplyGate.Yaml.Token
/-!
The tree of a YAML text: scalars, lists and maps, each with its tag. A node with an anchor can be
used again by an alias behind it, but not inside itself; a name is anchored at most once.
-/
namespace SupplyGate.Yaml

/-- A node. The scalars without quotes are marked, for what they stand for depends on their text. -/
inductive Node where
  | scalar (tag : Option String) (plain : Bool) (text : String)
  | list (tag : Option String) (items : List Node)
  | map (tag : Option String) (entries : List (Node × Node))

instance : Inhabited Node := ⟨.scalar none true ""⟩

namespace Node

/-- The node that stands where nothing is written. -/
def empty : Node := .scalar none true ""

/-- What is left to read, and what has been read. -/
structure Reader where
  tokens : List Token
  /-- The anchored nodes; one that is not complete yet has no node. -/
  anchors : List (String × Option Node)
  /-- The tag handles. -/
  handles : List (String × String)

abbrev Step := StateT Reader Reading

/-- The text is no document. -/
def refuse {α : Type} : Step α := throw Fault.unreadable

def peek? : Step (Option Token) := do return (← get).tokens.head?

def nextIs (ts : List Token) : Step Bool := do return (← peek?).any ts.contains

/-- The next token is passed over. -/
def advance : Step Unit := modify fun r => { r with tokens := r.tokens.tail }

/-- The next token has to be this one; it is passed over. -/
def expect (t : Token) : Step Unit := do
  if ← nextIs [t] then advance else refuse

/-! ## Properties -/

/-- The tags that need no directive. -/
def standardHandles : List (String × String) := [("!", "!"), ("!!", "tag:yaml.org,2002:")]

def anchor? : Step (Option String) := do
  match ← peek? with
  | some (.anchor name) =>
    advance
    return some name
  | _ => return none

def tagText (handle : Option String) (suffix : String) : Step String := do
  match handle with
  | none => return suffix
  | some h =>
    match (← get).handles.lookup h with
    | some start => return start ++ suffix
    | none => refuse

def tag? : Step (Option String) := do
  match ← peek? with
  | some (.tag handle suffix) =>
    advance
    return some (← tagText handle suffix)
  | _ => return none

/-- An anchor and a tag, in either order. -/
def properties : Step (Option String × Option String) := do
  match ← anchor? with
  | some name => return (some name, ← tag?)
  | none =>
    let tag ← tag?
    return (← anchor?, tag)

def aliased (name : String) : Step Node := do
  match (← get).anchors.lookup name with
  | some (some n) => return n
  | _ => refuse

/-- A name is anchored; its node is not complete yet. -/
def openAnchor : Option String → Step Unit
  | none => pure ()
  | some name => do
    if ((← get).anchors.lookup name).isSome then refuse
    modify fun r => { r with anchors := (name, none) :: r.anchors }

def closeAnchor (anchor : Option String) (n : Node) : Step Node := do
  match anchor with
  | none => return n
  | some name =>
    modify fun r => { r with anchors := (name, some n) :: r.anchors }
    return n

/-- A tag that says nothing is as good as none; a scalar with it is read as if it had no quotes. -/
def plainTag (tag : Option String) : Option String := tag.filter (· != "!")

/-! ## Nodes -/

mutual

/-- A node: in brackets there are no collections by layout, and only the value or key of an entry by
layout may be a list that is not indented. -/
def node (inBlock mayBeFlush : Bool) : Nat → Step Node
  | 0 => refuse
  | fuel + 1 => do
    match ← peek? with
    | some (.alias name) =>
      advance
      aliased name
    | _ =>
      let (anchor, tag) ← properties
      openAnchor anchor
      closeAnchor anchor (← content inBlock mayBeFlush anchor tag fuel)

/-- What a node holds, after its properties. -/
def content (inBlock mayBeFlush : Bool) (anchor tag : Option String) : Nat → Step Node
  | 0 => refuse
  | fuel + 1 => do
    let shown := plainTag tag
    match ← peek? with
    | some (.scalar plain text) =>
      advance
      return .scalar shown (plain || tag == some "!") text
    | some .flowListStart =>
      advance
      return .list shown (← flowItems true fuel)
    | some .flowMapStart =>
      advance
      return .map shown (← flowEntries true fuel)
    | some .item =>
      if inBlock && mayBeFlush then return .list shown (← flushItems fuel)
      emptyContent anchor tag
    | some .blockListStart =>
      if !inBlock then return ← emptyContent anchor tag
      advance
      return .list shown (← blockItems fuel)
    | some .blockMapStart =>
      if !inBlock then return ← emptyContent anchor tag
      advance
      return .map shown (← blockEntries fuel)
    | _ => emptyContent anchor tag

/-- A node that has properties but holds nothing. -/
def emptyContent (anchor tag : Option String) : Step Node := do
  if anchor.isNone && tag.isNone then refuse
  return .scalar (plainTag tag) true ""

/-- A node, or nothing in front of one of some tokens. -/
def nodeBefore (inBlock mayBeFlush : Bool) (ends : List Token) : Nat → Step Node
  | 0 => refuse
  | fuel + 1 => do
    if ← nextIs ends then return empty
    node inBlock mayBeFlush fuel

def blockItems : Nat → Step (List Node)
  | 0 => refuse
  | fuel + 1 => do
    if ← nextIs [.item] then
      advance
      let n ← nodeBefore true false [.item, .blockEnd] fuel
      return n :: (← blockItems fuel)
    expect .blockEnd
    return []

/-- The items of a list that is not indented. -/
def flushItems : Nat → Step (List Node)
  | 0 => refuse
  | fuel + 1 => do
    if ← nextIs [.item] then
      advance
      let n ← nodeBefore true false [.item, .key, .value, .blockEnd] fuel
      return n :: (← flushItems fuel)
    return []

/-- The value of an entry, if there is one. -/
def valueBefore (inBlock : Bool) (ends : List Token) : Nat → Step Node
  | 0 => refuse
  | fuel + 1 => do
    if ← nextIs [.value] then
      advance
      nodeBefore inBlock inBlock ends fuel
    else return empty

/-- The entries of a map by layout. -/
def blockEntries : Nat → Step (List (Node × Node))
  | 0 => refuse
  | fuel + 1 => do
    if ← nextIs [.key] then
      advance
      let ends := [Token.key, .value, .blockEnd]
      let k ← nodeBefore true true ends fuel
      let v ← valueBefore true ends fuel
      return (k, v) :: (← blockEntries fuel)
    expect .blockEnd
    return []

/-- The items of a list in brackets; an item may be a single entry of a map. -/
def flowItems (first : Bool) : Nat → Step (List Node)
  | 0 => refuse
  | fuel + 1 => do
    if ← nextIs [.flowListEnd] then
      advance
      return []
    if !first then expect .comma
    if ← nextIs [.key] then
      advance
      let k ← nodeBefore false false [.value, .comma, .flowListEnd] fuel
      let v ← valueBefore false [.comma, .flowListEnd] fuel
      return .map none [(k, v)] :: (← flowItems false fuel)
    if ← nextIs [.flowListEnd] then
      advance
      return []
    let n ← node false false fuel
    return n :: (← flowItems false fuel)

/-- The entries of a map in brackets; a node without a value stands for a key. -/
def flowEntries (first : Bool) : Nat → Step (List (Node × Node))
  | 0 => refuse
  | fuel + 1 => do
    if ← nextIs [.flowMapEnd] then
      advance
      return []
    if !first then expect .comma
    if ← nextIs [.key] then
      advance
      let k ← nodeBefore false false [.value, .comma, .flowMapEnd] fuel
      let v ← valueBefore false [.comma, .flowMapEnd] fuel
      return (k, v) :: (← flowEntries false fuel)
    if ← nextIs [.flowMapEnd] then
      advance
      return []
    let k ← node false false fuel
    return (k, empty) :: (← flowEntries false fuel)

end

/-! ## Documents -/

/-- The directives of a document: at most one version, of the first kind, and no handle twice. -/
def directives (versioned : Bool) : Nat → Step Unit
  | 0 => refuse
  | fuel + 1 => do
    match ← peek? with
    | some (.directive (.version major _)) =>
      if versioned || major != 1 then refuse
      advance
      directives true fuel
    | some (.directive (.tagHandle handle start)) =>
      if ((← get).handles.lookup handle).isSome then refuse
      modify fun r => { r with handles := (handle, start) :: r.handles }
      advance
      directives versioned fuel
    | some (.directive .other) =>
      advance
      directives versioned fuel
    | _ => pure ()

/-- The handles of a document with its directives. -/
def withStandardHandles : Step Unit :=
  modify fun r => { r with handles := r.handles ++ standardHandles }

/-- The only document of a text; a text without one holds nothing. -/
def document (fuel : Nat) : Step Node := do
  match ← peek? with
  | none => return empty
  | some (.directive _) | some .documentStart =>
    directives false fuel
    withStandardHandles
    expect .documentStart
    match ← peek? with
    | none | some .documentEnd | some .documentStart | some (.directive _) => return empty
    | _ => node true false fuel
  | _ =>
    withStandardHandles
    node true false fuel

def ends (r : Reader) : Bool := r.tokens.all (· == .documentEnd)

def ofTokens (tokens : List Token) : Reading Node := do
  let fuel := 4 * tokens.length + 4
  let (n, r) ← (document fuel).run ⟨tokens, [], []⟩
  if ends r then return n
  throw .unreadable

end Node
end SupplyGate.Yaml
