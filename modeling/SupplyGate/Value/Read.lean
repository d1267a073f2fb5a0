import SupplyGate.Fault
import SupplyGate.Number.Numeral
import SupplyGate.Text.Case
import SupplyGate.Time.Iso8601
/-!
Reading documents: what a record asks of a value whose shape nobody has checked, and the fault of
each wrong shape. `field?` and `item` look up a key, `asList`, `asEntries` and `asFloat` convert,
`asTimestamp` reads an optional timestamp, and `Scale.read` finds the member of a scale that a value
names.
-/
namespace SupplyGate

/-- Reading gives a result or says why not. -/
abbrev Reading := Except Fault

namespace Value

/-- A value has to be one that can be written. -/
def checkWritable (v : Value) : Reading Unit := if v.isWritable then .ok () else .error .longNumber

/-- All of some values have to be ones that can be written. -/
def checkAll (vs : List Value) : Reading Unit := if vs.all isWritable then .ok () else .error .longNumber

/-- A value as it stands in a message. -/
def text (v : Value) : Reading String := do
  v.checkWritable
  return v.rendered

/-! ## Looking up keys -/

/-- The entry of a map under a key, if there is one. -/
def field? (v : Value) (key : String) : Reading (Option Value) :=
  match v with
  | .map entries => .ok (find? key entries)
  | v => .error (.noPart v.qualifiedKind "get")

/-- The entry of a map under a key, or a default. -/
def field (v : Value) (key : String) (default : Value := .null) : Reading Value := do
  return (← v.field? key).getD default

/-- The entry of a map under a required key. -/
def item (v : Value) (key : String) : Reading Value :=
  match v with
  | .map entries =>
    match find? key entries with
    | some w => .ok w
    | none => .error (.missingKey (.str key))
  | .list _ => .error (.kind .listIndex)
  | .str _ => .error (.kind .textIndex)
  | v => .error (.kind (.notSubscriptable v.qualifiedKind))

/-- The entry of a map under a key that the map may lack; a list or text that has the key for a
member cannot be asked for it. -/
def memberItem (v : Value) (key : String) (default : Value) : Reading Value :=
  match v with
  | .map entries => .ok ((find? key entries).getD default)
  | .list items => if (Value.str key).elem items then .error (.kind .listIndex) else .ok default
  | .str s =>
    if Text.contains s key then .error (.kind .textIndex) else .ok default
  | v => .error (.kind (.notIterable v.qualifiedKind))

/-- The item of a collection at a position; a map is asked for the number as a key. -/
def itemAt (v : Value) (n : Nat) : Reading Value :=
  match v with
  | .map entries =>
    match findEntry (.int n) entries with
    | some w => .ok w
    | none => .error (.missingKey (.int n))
  | .list items =>
    match items[n]? with
    | some w => .ok w
    | none => .error (.index "list")
  | .str s =>
    match s.toList[n]? with
    | some c => .ok (.str (String.singleton c))
    | none => .error (.index "string")
  | v => .error (.kind (.notSubscriptable v.qualifiedKind))

/-! ## Conversions -/

/-- The items of a collection: the characters of a text, the keys of a map. -/
def asList : Value → Reading (List Value)
  | .list items => .ok items
  | .map entries => .ok (entries.map fun (k, _) => .scalar k)
  | .str s => .ok (s.toList.map fun c => .str (String.singleton c))
  | v => .error (.kind (.notIterable v.qualifiedKind))

/-- The items of a collection; nothing stands for the empty one. -/
def asListOrEmpty (v : Value) : Reading (List Value) := (v.orElse (.list [])).asList

def asScalar : Value → Reading Scalar
  | .scalar s => .ok s
  | v => .error (.kind (.unhashable v.qualifiedKind))

/-- The key that a value is up to equality. -/
def asKey (v : Value) : Reading Key := do return (← v.asScalar).key

/-- The entries given by a list of pairs, the later ones over the earlier ones. -/
def pairEntries (index : Nat) (entries : List (Scalar × Value)) :
    List Value → Reading (List (Scalar × Value))
  | [] => .ok entries
  | v :: rest =>
    match v.asList with
    | .error _ => .error (.kind (.notPair index))
    | .ok [k, w] => do pairEntries (index + 1) (insert (← k.asScalar) w entries) rest
    | .ok items => .error (.pairLength index items.length)

/-- The entries of a map, or of a list of pairs. -/
def asEntries : Value → Reading (List (Scalar × Value))
  | .map entries => .ok entries
  | v => do pairEntries 0 [] (← v.asList)

/-- The entries of a map; nothing stands for the empty one. -/
def asEntriesOrEmpty (v : Value) : Reading (List (Scalar × Value)) := (v.orElse (.map [])).asEntries

/-- The entries of a map that is put over another one. -/
def asOverlay : Value → Reading (List (Scalar × Value))
  | .map entries => .ok entries
  | v => .error (.kind (.notMapping v.qualifiedKind))

def asFloat : Value → Reading Float
  | .float x => .ok x
  | .int n => match Number.ofInt? n with
    | some x => .ok x
    | none => .error .floatRange
  | .bool b => .ok (if b then 1.0 else 0.0)
  | .str s => match Number.readNumber s with
    | some n => .ok n.toFloat
    | none => .error (.notNumeral s)
  | v => .error (.kind (.notReal v.qualifiedKind))

/-- An optional timestamp: null and the empty text stand for none, and a timestamp without an offset
is in universal time. -/
def asTimestamp : Value → Reading (Option Timestamp)
  | .null => .ok none
  | .str "" => .ok none
  | .time t => .ok (some t.assumeUtc)
  | v => do
    match Iso8601.read (← v.text) with
    | .ok t => .ok (some t.assumeUtc)
    | .error .malformed => .error .badTimestamp
    | .error .outOfRange => .error .calendarRange

def upperText (v : Value) : Reading String := Text.upper <$> v.text

def lowerText (v : Value) : Reading String := Text.lower <$> v.text

end Value

/-- A scale: finitely many members, each with the text that documents use for it. -/
class Scale (α : Type) where
  title : String
  members : List α
  text : α → String

namespace Scale

def ofText? {α : Type} [Scale α] (s : String) : Option α := (members (α := α)).find? (text · == s)

/-- The member that a value names. -/
def read {α : Type} [Scale α] (v : Value) : Reading α :=
  match v with
  | .str s =>
    match ofText? s with
    | some a => .ok a
    | none => .error (.notMember v (title α))
  | v => do
    v.checkWritable
    .error (.notMember v (title α))

/-- The member that a value names in any case, on a scale with texts in upper case. -/
def readUpper {α : Type} [Scale α] (v : Value) : Reading α := do read (.str (← v.upperText))

/-- The member that a value names in any case, on a scale with texts in lower case. -/
def readLower {α : Type} [Scale α] (v : Value) : Reading α := do read (.str (← v.lowerText))

def value {α : Type} [Scale α] (a : α) : Value := .str (text a)

end Scale

def Value.ofRecords {α : Type} (toDoc : α → Value) (records : List α) : Value :=
  .list (records.map toDoc)

/-- The records that the items of a collection describe. -/
def Value.asRecords {α : Type} (ofDoc : Value → Reading α) (v : Value) : Reading (List α) := do
  (← v.asList).mapM ofDoc

/-- The records that the items of a collection describe; nothing stands for the empty list. -/
def Value.asRecordsOrEmpty {α : Type} (ofDoc : Value → Reading α) (v : Value) : Reading (List α) :=
  (v.orElse (.list [])).asRecords ofDoc

/-- Only times of one kind can be compared: both with an offset, or both without. -/
def Timestamp.checkKinds (operation : String) (s t : Timestamp) : Reading Unit :=
  if s.offset.isSome == t.offset.isSome then .ok () else .error (.kind (.mixedTimes operation))

/-- The days since an earlier time of the same kind. -/
def Timestamp.daysFrom (t since : Timestamp) : Reading Int := do
  checkKinds "subtract" t since
  return t.daysSince since

/-- An optional timestamp as a document keeps it. -/
def Timestamp.toDoc : Option Timestamp → Value
  | none => .null
  | some t => .str t.format

end SupplyGate
