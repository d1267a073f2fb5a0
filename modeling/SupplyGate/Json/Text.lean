import SupplyGate.Value.Arithmetic
/-!
Values as JSON text: blanks after colons and commas, everything beyond printable ASCII escaped, and
entries in the order of the map. A timestamp or day is written as its text; as a key it is refused.
-/
namespace SupplyGate.Json

def unitEscape (n : Nat) : List Char := '\\' :: 'u' :: Text.hexDigits 4 n

/-- One character inside a string. -/
def escapeChar (c : Char) : List Char :=
  if c == '"' then ['\\', '"']
  else if c == '\\' then ['\\', '\\']
  else if c == '\n' then ['\\', 'n']
  else if c == '\r' then ['\\', 'r']
  else if c == '\t' then ['\\', 't']
  else if c == '\x08' then ['\\', 'b']
  else if c == '\x0c' then ['\\', 'f']
  else if ' ' ≤ c && c ≤ '~' then [c]
  else if c.toNat < 0x10000 then unitEscape c.toNat
  else
    let n := c.toNat - 0x10000
    unitEscape (0xD800 + n / 0x400) ++ unitEscape (0xDC00 + n % 0x400)

/-- A string with its quotes. -/
def quote (s : String) : String := String.ofList ('"' :: s.toList.flatMap escapeChar ++ ['"'])

/-- A number that is a float. -/
def floatText (x : Float) : String :=
  match Number.Extended.ofFloat x with
  | .nan => "NaN"
  | .infinite negative => if negative then "-Infinity" else "Infinity"
  | .finite _ => Number.floatText x

/-- A scalar as it stands in a text. -/
def scalarText : Scalar → String
  | .null => "null"
  | .bool b => if b then "true" else "false"
  | .int n => toString n
  | .float x => floatText x
  | .str s => quote s
  | .time t => quote t.format
  | .date d => quote d.format

/-- A scalar, if it can be written. -/
def ofScalar (s : Scalar) : Reading String := if s.isWritable then .ok (scalarText s) else .error .longNumber

/-- A key: a string, or the text of a scalar that has one. -/
def ofKey : Scalar → Reading String
  | .str s => .ok (quote s)
  | .time _ => .error (.kind (.unwritableKey "datetime"))
  | .date _ => .error (.kind (.unwritableKey "date"))
  | s => quote <$> ofScalar s

def bracketed (items : List String) : String := "[" ++ ", ".intercalate items ++ "]"

/-- A map of written entries. -/
def braced (entries : List String) : String := "\x7b" ++ ", ".intercalate entries ++ "\x7d"

mutual

def ofValue : Value → Reading String
  | .scalar s => ofScalar s
  | .list items => do return bracketed (← ofItems items)
  | .map entries => do return braced (← ofEntries entries)

def ofItems : List Value → Reading (List String)
  | [] => .ok []
  | v :: rest => do return (← ofValue v) :: (← ofItems rest)

/-- The entries of a map. -/
def ofEntries : List (Scalar × Value) → Reading (List String)
  | [] => .ok []
  | (k, v) :: rest => do
    let key ← ofKey k
    return (key ++ ": " ++ (← ofValue v)) :: (← ofEntries rest)

end

end SupplyGate.Json
