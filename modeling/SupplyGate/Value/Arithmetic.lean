import SupplyGate.Value.Read
/-!
Arithmetic and order of document values. Integers stay integers under addition, subtraction and
multiplication, a quotient is a float, and an operation with a float is done in floats; truth values
count as one and zero. A whole number times a text or a list repeats it. Order compares numbers
exactly, texts by code point and lists item by item. `clamp` bounds a score to `0 … 100`.

Records are sorted by a key with a binary insertion sort that asks whether one key is below another
and may be told that there is no order between them. Keys that are not ranked, such as what is not a
number, stay where the comparisons lead them.
-/
namespace SupplyGate

/-- A number as arithmetic sees it. -/
inductive Operand where
  | int (n : Int)
  | float (x : Float)

namespace Value

def operand? : Value → Option Operand
  | .bool b => some (.int (if b then 1 else 0))
  | .int n => some (.int n)
  | .float x => some (.float x)
  | _ => none

def operandFloat : Operand → Reading Float
  | .float x => .ok x
  | .int n => match Number.ofInt? n with
    | some x => .ok x
    | none => .error .floatRange

/-- An operation on two numbers: on integers one way, on floats the other. -/
def arithmetic (operator : String) (onInts : Int → Int → Reading Value)
    (onFloats : Float → Float → Float) (a b : Value) : Reading Value :=
  match a.operand?, b.operand? with
  | some (.int m), some (.int n) => onInts m n
  | some p, some q => do return .float (onFloats (← operandFloat p) (← operandFloat q))
  | _, _ => .error (.kind (.operands operator a.qualifiedKind b.qualifiedKind))

/-- The sum of two numbers. -/
def add : Value → Value → Reading Value := arithmetic "+" (fun m n => .ok (.int (m + n))) (· + ·)

/-- The difference of two numbers. -/
def sub : Value → Value → Reading Value := arithmetic "-" (fun m n => .ok (.int (m - n))) (· - ·)

def whole? : Value → Option Int
  | .bool b => some (if b then 1 else 0)
  | .int n => some n
  | _ => none

/-- A text or a list some times in a row, none if the number of times is negative. -/
def repeated? (v : Value) (times : Int) : Option Value :=
  match v with
  | .str s => some (.str (String.ofList (List.replicate times.toNat s.toList).flatten))
  | .list items => some (.list (List.replicate times.toNat items).flatten)
  | _ => none

/-- The product of two numbers; a whole number times a text or a list repeats it. -/
def mul (a b : Value) : Reading Value :=
  match (b.whole?.bind a.repeated?).or (a.whole?.bind b.repeated?) with
  | some v => .ok v
  | none => arithmetic "*" (fun m n => .ok (.int (m * n))) (· * ·) a b

/-- The quotient of two numbers, as a float. -/
def div : Value → Value → Reading Value :=
  arithmetic "/" (fun m n => match Number.quotient? m n with
    | some x => .ok (.float x)
    | none => .error .floatRange) (· / ·)

/-- The sum of some numbers, from left to right. -/
def sum (values : List Value) : Reading Value := values.foldlM add (.int 0)

/-! ## Order -/

def number? : Value → Option Number.Extended
  | .bool b => some (.ofInt (if b then 1 else 0))
  | .int n => some (.ofInt n)
  | .float x => some (.ofFloat x)
  | _ => none

/-- Lexicographic order of texts by code point. -/
def lessChars : List Char → List Char → Bool
  | _, [] => false
  | [], _ :: _ => true
  | c :: cs, d :: ds => c < d || (c == d && lessChars cs ds)

mutual

/-- Strict order, where two values have one. -/
def less? : Value → Value → Option Bool
  | .str s, .str t => some (lessChars s.toList t.toList)
  | .time s, .time t => if s.offset.isSome == t.offset.isSome then some (t.isAfter s) else none
  | .date s, .date t => some (s.ordinal < t.ordinal)
  | .list xs, .list ys => lessItems? xs ys
  | .scalar a, .scalar b => do return (← (Value.scalar a).number?).less (← (Value.scalar b).number?)
  | _, _ => none

/-- Lexicographic order of lists: the first pair of different items decides. -/
def lessItems? : List Value → List Value → Option Bool
  | _, [] => some false
  | [], _ :: _ => some true
  | x :: xs, y :: ys => if x.same y then lessItems? xs ys else less? x y

end

/-- The fault of two values without an order between them. -/
def withoutOrder (operator : String) : Value → Value → Fault
  | .time _, .time _ => .kind (.mixedTimes "compare")
  | a, b => .kind (.notComparable operator a.qualifiedKind b.qualifiedKind)

/-- An order test, or the fault of two kinds without an order. -/
def ordered (operator : String) (a b : Value) (answer : Option Bool) : Reading Bool :=
  match answer with
  | some r => .ok r
  | none => .error (withoutOrder operator a b)

/-- Strictly below. -/
def less (a b : Value) : Reading Bool := ordered "<" a b (less? a b)

/-- Strictly above. -/
def greater (a b : Value) : Reading Bool := ordered ">" a b (less? b a)

/-- Below or equal. -/
def atMost (a b : Value) : Reading Bool :=
  ordered "<=" a b ((less? a b).map (· || a.same b))

/-- Above or equal. -/
def atLeast (a b : Value) : Reading Bool :=
  ordered ">=" a b ((less? b a).map (· || a.same b))

/-- A score bounded to `0 … 100`: a bound is a float, a score inside keeps its kind. -/
def clamp (score : Value) : Reading Value := do
  let capped := if ← score.less (.float 100.0) then score else .float 100.0
  if ← capped.greater (.float 0.0) then return capped else return .float 0.0

end Value

/-! ## Sorting -/

section Sorting

variable {α : Type} (key : α → Value)

/-- How far a run goes on after a record: while each next one is below the one before it, or while
none is. Given are the run and what follows it. -/
def restOfRun (down : Bool) (before : α) : List α → Reading (List α × List α)
  | [] => .ok ([], [])
  | a :: rest => do
    if (← (key a).less (key before)) != down then return ([], a :: rest)
    let (run, rest) ← restOfRun down a rest
    return (a :: run, rest)

/-- The run with which a list begins, in ascending order, and what follows it. -/
def firstRun : List α → Reading (List α × List α)
  | a :: b :: rest => do
    let down ← (key b).less (key a)
    let (run, rest) ← restOfRun key down b rest
    return (if down then (a :: b :: run).reverse else a :: b :: run, rest)
  | short => .ok (short, [])

/-- A record put into sorted ones, after those that it is not below. Its place is found by halving. -/
def insertByHalves (a : α) (sorted : List α) : Reading (List α) :=
  match _h : sorted.drop (sorted.length / 2) with
  | [] => .ok [a]
  | middle :: upper => do
    let lower := sorted.take (sorted.length / 2)
    if ← (key a).less (key middle) then return (← insertByHalves a lower) ++ middle :: upper
    return lower ++ middle :: (← insertByHalves a upper)
termination_by sorted.length
decreasing_by
  all_goals
    have hlength := congrArg List.length _h
    simp only [List.length_drop, List.length_cons, List.length_take] at hlength ⊢
    omega

/-- The records by ascending key, equal ones in the given order. -/
def sortAscending (records : List α) : Reading (List α) := do
  let (sorted, rest) ← firstRun key records
  rest.foldlM (fun sorted a => insertByHalves key a sorted) sorted

/-- The records by descending key, equal ones in the given order. -/
def sortDescending (records : List α) : Reading (List α) := List.reverse <$> sortAscending key records.reverse

end Sorting

end SupplyGate
