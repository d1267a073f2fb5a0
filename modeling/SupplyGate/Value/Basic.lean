import SupplyGate.Number.Decimal
import SupplyGate.Number.Extended
import SupplyGate.Text.Quoted
import SupplyGate.Time.Timestamp
/-!
Document values. Policies, inventories and stored records arrive as documents whose shape nobody
has checked, and conditions compare what a document says with what a dependency has; both are a
`Value`. A map keeps its entries in the order in which their keys first appeared.

`Value.same` is equality of documents: numbers by value, whichever way they are written, maps
without regard to order, and what is not a number equals nothing: a value that has it in it does not
equal itself. `Value.rendered` is how a value stands in a message, if its numbers can be written
(`Value.isWritable`).
-/
namespace SupplyGate

/-- A value without parts. Only these are keys of a map. -/
inductive Scalar where
  | null
  | bool (b : Bool)
  | int (n : Int)
  | float (x : Float)
  | str (s : String)
  | time (t : Timestamp)
  | date (d : Date)

inductive Value where
  | scalar (s : Scalar)
  | list (items : List Value)
  | map (entries : List (Scalar × Value))

instance : Inhabited Scalar := ⟨.null⟩
instance : Inhabited Value := ⟨.scalar .null⟩

namespace Value

@[match_pattern] abbrev null : Value := .scalar .null
@[match_pattern] abbrev bool (b : Bool) : Value := .scalar (.bool b)
@[match_pattern] abbrev int (n : Int) : Value := .scalar (.int n)
@[match_pattern] abbrev float (x : Float) : Value := .scalar (.float x)
@[match_pattern] abbrev str (s : String) : Value := .scalar (.str s)
@[match_pattern] abbrev time (t : Timestamp) : Value := .scalar (.time t)
@[match_pattern] abbrev date (d : Date) : Value := .scalar (.date d)

instance : Coe String Value := ⟨Value.str⟩

/-- A map whose keys are texts. -/
def fields (entries : List (String × Value)) : Value :=
  .map (entries.map fun (k, v) => (.str k, v))

def texts (ss : List String) : Value := .list (ss.map .str)

end Value

/-! ## Kinds -/

/-- The kind of a scalar, as messages about a document's layout name it. -/
def Scalar.kindName : Scalar → String
  | .null => "NoneType"
  | .bool _ => "bool"
  | .int _ => "int"
  | .float _ => "float"
  | .str _ => "str"
  | .time _ => "datetime"
  | .date _ => "date"

/-- The kind of a value, as messages about a document's layout name it. -/
def Value.kindName : Value → String
  | .scalar s => s.kindName
  | .list _ => "list"
  | .map _ => "dict"

/-- The kind of a value, as messages about an operation name it: timestamps and days by their
qualified names. -/
def Value.qualifiedKind : Value → String
  | .time _ => "datetime.datetime"
  | .date _ => "datetime.date"
  | v => v.kindName

/-! ## Truth -/

/-- A scalar stands for something: it is not null, false, zero or the empty text. -/
def Scalar.truthy : Scalar → Bool
  | .null => false
  | .bool b => b
  | .int n => n != 0
  | .float x => !(Number.Extended.ofFloat x).same (.finite 0)
  | .str s => s != ""
  | .time _ => true
  | .date _ => true

/-- A value stands for something: a scalar that does, or a collection that is not empty. -/
def Value.truthy : Value → Bool
  | .scalar s => s.truthy
  | .list items => !items.isEmpty
  | .map entries => !entries.isEmpty

/-- The value, or another one where it stands for nothing. -/
def Value.orElse (v : Value) (other : Value) : Value := if v.truthy then v else other

/-! ## Equality -/

/-- A scalar up to equality: a number is its exact value, truth values count as one and zero, and a
timestamp is its instant. -/
inductive Key where
  | null
  | number (x : Number.Extended)
  | str (s : String)
  | time (fixed : Bool) (instant : Int)
  | date (d : Date)
  deriving DecidableEq

def Scalar.key : Scalar → Key
  | .null => .null
  | .bool b => .number (.ofInt (if b then 1 else 0))
  | .int n => .number (.ofInt n)
  | .float x => .number (.ofFloat x)
  | .str s => .str s
  | .time t => .time t.offset.isSome t.instant
  | .date d => .date d

/-- Equality of scalars: equal keys, except that what is not a number equals nothing. -/
def Scalar.same (a b : Scalar) : Bool := a.key == b.key && a.key != .number .nan

/-- The entry of a map under a key. -/
def findEntry (key : Scalar) : List (Scalar × Value) → Option Value
  | [] => none
  | (k, v) :: rest => if k.same key then some v else findEntry key rest

mutual

/-- Equality of values. -/
def Value.same : Value → Value → Bool
  | .scalar a, .scalar b => a.same b
  | .list xs, .list ys => Value.sameItems xs ys
  | .map xs, .map ys => xs.length == ys.length && Value.sameEntries xs ys
  | _, _ => false

/-- Equality of lists, item by item. -/
def Value.sameItems : List Value → List Value → Bool
  | [], [] => true
  | x :: xs, y :: ys => x.same y && Value.sameItems xs ys
  | _, _ => false

/-- Every entry has an equal one under its key in another map. -/
def Value.sameEntries : List (Scalar × Value) → List (Scalar × Value) → Bool
  | [], _ => true
  | (k, v) :: rest, ys =>
    (match findEntry k ys with
      | some w => v.same w
      | none => false) && Value.sameEntries rest ys

end

def Value.elem (v : Value) (items : List Value) : Bool := items.any (·.same v)

/-! ## Maps -/

namespace Value

/-- The entry of a map under a text key. -/
def find? (key : String) (entries : List (Scalar × Value)) : Option Value :=
  findEntry (.str key) entries

/-- A map with the entry under a key replaced, or added at the end. -/
def insert (key : Scalar) (v : Value) : List (Scalar × Value) → List (Scalar × Value)
  | [] => [(key, v)]
  | (k, w) :: rest => if k.same key then (k, v) :: rest else (k, w) :: insert key v rest

/-- A map with the entries of another one put over it. -/
def overlay (base added : List (Scalar × Value)) : List (Scalar × Value) :=
  added.foldl (fun entries (k, v) => insert k v entries) base

end Value

/-! ## Text -/

/-- The calls that build a day or a timestamp, as they stand inside lists. -/
def dateCall (d : Date) : String :=
  s!"datetime.date({toString d.year}, {toString d.month}, {toString d.day})"

def offsetCall : Option Offset → String
  | none => ""
  | some o =>
    if o.minutes = 0 then ", tzinfo=datetime.timezone.utc"
    else if 0 ≤ o.minutes then
      ", tzinfo=datetime.timezone(datetime.timedelta(seconds=" ++ toString (o.minutes * 60) ++ "))"
    else
      ", tzinfo=datetime.timezone(datetime.timedelta(days=-1, seconds=" ++
        toString (86400 + o.minutes * 60) ++ "))"

/-- The call that builds a timestamp: trailing zero seconds and microseconds are left out. -/
def timeCall (t : Timestamp) : String :=
  let parts := [t.date.year, t.date.month, t.date.day, t.hour.val, t.minute.val] ++
    (if t.second.val = 0 ∧ t.micro.val = 0 then []
     else if t.micro.val = 0 then [t.second.val] else [t.second.val, t.micro.val])
  "datetime.datetime(" ++ ", ".intercalate (parts.map toString) ++ offsetCall t.offset ++ ")"

/-- A scalar inside a collection. -/
def Scalar.quoted : Scalar → String
  | .null => "None"
  | .bool b => if b then "True" else "False"
  | .int n => toString n
  | .float x => Number.floatText x
  | .str s => Text.quoted s
  | .time t => timeCall t
  | .date d => dateCall d

mutual

def Value.quoted : Value → String
  | .scalar s => s.quoted
  | .list items => "[" ++ ", ".intercalate (Value.quotedItems items) ++ "]"
  | .map entries => "\x7b" ++ ", ".intercalate (Value.quotedEntries entries) ++ "\x7d"

/-- The items of a list, each as it stands inside a collection. -/
def Value.quotedItems : List Value → List String
  | [] => []
  | v :: rest => v.quoted :: Value.quotedItems rest

/-- The entries of a map, each as it stands inside a collection. -/
def Value.quotedEntries : List (Scalar × Value) → List String
  | [] => []
  | (k, v) :: rest => (k.quoted ++ ": " ++ v.quoted) :: Value.quotedEntries rest

end

/-- A value as it stands in a message: a text is itself, a timestamp has a blank before its time. -/
def Value.rendered : Value → String
  | .str s => s
  | .time t => String.ofList (t.formatWith ' ')
  | .date d => d.format
  | v => v.quoted

/-- A scalar can be written: a whole number has few enough digits. -/
def Scalar.isWritable : Scalar → Bool
  | .int n => Number.isWritable n
  | _ => true

mutual

/-- A value can be written: so can every whole number in it. -/
def Value.isWritable : Value → Bool
  | .scalar s => s.isWritable
  | .list items => Value.areWritable items
  | .map entries => Value.entriesWritable entries

/-- All items of a list can be written. -/
def Value.areWritable : List Value → Bool
  | [] => true
  | v :: rest => v.isWritable && Value.areWritable rest

/-- All entries of a map can be written. -/
def Value.entriesWritable : List (Scalar × Value) → Bool
  | [] => true
  | (k, v) :: rest => k.isWritable && v.isWritable && Value.entriesWritable rest

end

end SupplyGate
