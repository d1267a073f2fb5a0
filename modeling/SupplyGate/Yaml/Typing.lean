import SupplyGate.Value.Read
/-!
What scalars stand for. A scalar without quotes is null, a truth value, a number or a point in time
if it is written like one: whole numbers also in base two, eight, sixteen and sixty, fractions with
a point. `Kind.ofPlain` tells which it is, and `Kind.read` reads a scalar as one of a kind.
-/
namespace SupplyGate.Yaml

inductive Kind where
  | null
  | bool
  | int
  | float
  | timestamp
  | str
  /-- The key under which other maps are merged into a map. -/
  | merge
  /-- A mark without meaning of its own, except as a key. -/
  | equals
  deriving DecidableEq, Repr

namespace Kind

/-! ## Forms -/

def isDigit (c : Char) : Bool := '0' ≤ c && c ≤ '9'

/-- The characters after an optional sign. -/
def unsigned : List Char → List Char
  | '-' :: rest => rest
  | '+' :: rest => rest
  | rest => rest

/-- All characters of a list have a property, and there is one. -/
def some? (q : Char → Bool) (cs : List Char) : Bool := !cs.isEmpty && cs.all q

/-- A text cut at its colons. -/
def parts (cs : List Char) : List (List Char) :=
  cs.foldr (fun c sofar => match c, sofar with
    | ':', _ => [] :: sofar
    | _, part :: rest => (c :: part) :: rest
    | _, [] => [[c]]) [[]]

/-- A part of a number in base sixty after the first: at most two digits, below sixty. -/
def isSixtieth : List Char → Bool
  | [c] => isDigit c
  | [a, b] => '0' ≤ a && a ≤ '5' && isDigit b
  | _ => false

/-- A first digit and then digits and low lines. -/
def isRun (first : Char → Bool) : List Char → Bool
  | c :: rest => first c && rest.all fun d => isDigit d || d == '_'
  | [] => false

/-- A whole number in base sixty without its sign. -/
def isSexagesimal (first : Char → Bool) (cs : List Char) : Bool :=
  match parts cs with
  | head :: tail => !tail.isEmpty && isRun first head && tail.all isSixtieth
  | [] => false

/-- A decimal digit that is not zero. -/
def isPositiveDigit (c : Char) : Bool := '1' ≤ c && c ≤ '9'

def isHexDigit (c : Char) : Bool :=
  isDigit c || ('a' ≤ c && c ≤ 'f') || ('A' ≤ c && c ≤ 'F')

/-- A whole number without its sign. -/
def isInt : List Char → Bool
  | ['0'] => true
  | '0' :: 'b' :: rest => some? (fun c => c == '0' || c == '1' || c == '_') rest
  | '0' :: 'x' :: rest => some? (fun c => isHexDigit c || c == '_') rest
  | '0' :: rest => some? (fun c => ('0' ≤ c && c ≤ '7') || c == '_') rest
  | cs => isRun isPositiveDigit cs || isSexagesimal isPositiveDigit cs

/-- An exponent, which has a sign, or none. -/
def isExponent : List Char → Bool
  | [] => true
  | e :: sign :: rest =>
    (e == 'e' || e == 'E') && (sign == '+' || sign == '-') && some? isDigit rest
  | _ => false

/-- The digits and low lines in front of a text are passed over. -/
def afterRun (cs : List Char) : List Char := cs.dropWhile fun c => isDigit c || c == '_'

/-- A fraction with digits before its point, without its sign. -/
def isFraction (cs : List Char) : Bool :=
  match afterRun cs with
  | '.' :: rest => cs.head?.any isDigit && isExponent (afterRun rest)
  | _ => false

/-- A fraction in base sixty without its sign. -/
def isSexagesimalFraction (cs : List Char) : Bool :=
  match cs.dropWhile (· != '.') with
  | '.' :: rest => isSexagesimal isDigit (cs.takeWhile (· != '.')) && (afterRun rest).isEmpty
  | _ => false

/-- A fraction that begins with its point. -/
def isBareFraction : List Char → Bool
  | '.' :: c :: rest => isDigit c && isExponent (afterRun rest)
  | _ => false

def isFloat (cs : List Char) : Bool :=
  let body := unsigned cs
  let infinities := [".inf", ".Inf", ".INF"].map String.toList
  let nans := [".nan", ".NaN", ".NAN"].map String.toList
  isFraction body || isBareFraction cs || isSexagesimalFraction body || infinities.contains body ||
    nans.contains cs

/-- The texts that stand for nothing. -/
def nulls : List String := ["", "~", "null", "Null", "NULL"]

/-- The texts that stand for truth values. -/
def bools : List String := [
  "yes", "Yes", "YES", "no", "No", "NO", "true", "True", "TRUE", "false", "False", "FALSE",
  "on", "On", "ON", "off", "Off", "OFF"]

/-! ## Points in time -/

/-- The parts of a point in time as they are written. -/
structure Moment where
  year : Nat
  month : Nat
  day : Nat
  /-- Hour, minute, second and microsecond. -/
  time : Option (Nat × Nat × Nat × Nat)
  /-- Minutes east of universal time. -/
  offset : Option Int

/-- At most so many digits from a text, at least so many, and the rest. -/
def digits? (least most : Nat) (cs : List Char) : Option (Nat × List Char) :=
  let ds := (cs.takeWhile isDigit).take most
  if ds.length < least then none else some (Number.digitsValue ds, cs.drop ds.length)

/-- The rest of a text after a character that it has to begin with. -/
def after? (c : Char) : List Char → Option (List Char)
  | d :: rest => if c == d then some rest else none
  | [] => none

/-- The offset that ends a point in time. -/
def offset? (cs : List Char) : Option (Option Int) :=
  match cs.dropWhile fun c => c == ' ' || c == '\t' with
  | [] => if cs.isEmpty then some none else none
  | ['Z'] => some (some 0)
  | sign :: rest => do
    if sign != '+' && sign != '-' then none
    let (hours, rest) ← digits? 1 2 rest
    let (minutes, rest) ← match rest with
      | ':' :: rest => digits? 2 2 rest
      | rest => some (0, rest)
    if !rest.isEmpty then none
    let total : Int := hours * 60 + minutes
    some (some (if sign == '-' then -total else total))

/-- The time of day that ends a point in time, with its offset. -/
def clock? (cs : List Char) : Option ((Nat × Nat × Nat × Nat) × Option Int) := do
  let (hour, rest) ← digits? 1 2 cs
  let (minute, rest) ← digits? 2 2 (← after? ':' rest)
  let (second, rest) ← digits? 2 2 (← after? ':' rest)
  let (fraction, rest) := match rest with
    | '.' :: rest => (rest.takeWhile isDigit, rest.dropWhile isDigit)
    | rest => ([], rest)
  let offset ← offset? rest
  some ((hour, minute, second, Number.fractionValue 6 fraction), offset)

/-- What stands between day and time is passed over. -/
def afterDay : List Char → Option (List Char)
  | 'T' :: rest => some rest
  | 't' :: rest => some rest
  | c :: rest =>
    if c == ' ' || c == '\t' then some (rest.dropWhile fun c => c == ' ' || c == '\t') else none
  | [] => none

/-- A point in time: a day, or a day with a time. -/
def moment? (cs : List Char) : Option Moment := do
  let (year, rest) ← digits? 4 4 cs
  let (month, rest) ← digits? 1 2 (← after? '-' rest)
  let (day, rest) ← digits? 1 2 (← after? '-' rest)
  if rest.isEmpty then some ⟨year, month, day, none, none⟩
  else
    let (time, offset) ← clock? (← afterDay rest)
    some ⟨year, month, day, some time, offset⟩

/-- A text is a point in time without being marked as one: a day without a time is written in full. -/
def isMoment (cs : List Char) : Bool := (moment? cs).any fun m => m.time.isSome || cs.length == 10

/-- The refusal of a part of a point in time. -/
def outOfRange (text : String) : Fault := .malformed text

def Moment.date (m : Moment) : Reading Date :=
  match Date.of? m.year m.month m.day with
  | some d => .ok d
  | none => throw <| outOfRange <|
    if m.year = 0 then "year 0 is out of range"
    else if m.month = 0 ∨ 12 < m.month then "month must be in 1..12"
    else "day is out of range for month"

/-- A length of time as days and seconds. -/
def spanText (minutes : Int) : String :=
  let days := minutes.fdiv 1440
  let seconds := (minutes - days * 1440) * 60
  if seconds = 0 then s!"datetime.timedelta(days={toString days})"
  else s!"datetime.timedelta(days={toString days}, seconds={toString seconds})"

/-- An offset, which has to be less than a day. -/
def offsetOf (minutes : Int) : Reading Offset :=
  match Offset.of? minutes with
  | some o => .ok o
  | none => throw <| outOfRange <|
    "offset must be a timedelta strictly between -timedelta(hours=24) and timedelta(hours=24), " ++
      "not " ++ spanText minutes ++ "."

def below (bound : Nat) (positive : 0 < bound) (label : String) (n : Nat) : Reading (Fin bound) :=
  if n < bound then .ok ⟨n % bound, Nat.mod_lt n positive⟩
  else throw (outOfRange s!"{label} must be in 0..{toString (bound - 1)}")

/-- The day or timestamp of a moment. -/
def Moment.scalar (m : Moment) : Reading Scalar := do
  match m.time with
  | none => return .date (← m.date)
  | some (hour, minute, second, micro) => do
    let offset ← m.offset.mapM offsetOf
    let date ← m.date
    let hour ← below 24 (by decide) "hour" hour
    let minute ← below 60 (by decide) "minute" minute
    let second ← below 60 (by decide) "second" second
    let micro ← below 1000000 (by decide) "microsecond" micro
    return .time { date, hour, minute, second, micro, offset }

/-! ## Kinds -/

/-- The kind of a scalar without quotes. -/
def ofPlain (s : String) : Kind :=
  let cs := s.toList
  if nulls.contains s then .null
  else if bools.contains s then .bool
  else if isInt (unsigned cs) then .int
  else if isFloat cs then .float
  else if isMoment cs then .timestamp
  else if s == "<<" then .merge
  else if s == "=" then .equals
  else .str

def ofTag? : String → Option Kind
  | "tag:yaml.org,2002:null" => some .null
  | "tag:yaml.org,2002:bool" => some .bool
  | "tag:yaml.org,2002:int" => some .int
  | "tag:yaml.org,2002:float" => some .float
  | "tag:yaml.org,2002:timestamp" => some .timestamp
  | "tag:yaml.org,2002:str" => some .str
  | _ => none

/-! ## Reading -/

/-- A truth value. -/
def readBool (s : String) : Reading Scalar :=
  let word := Text.lower s
  if ["yes", "true", "on"].contains word then .ok (.bool true)
  else if ["no", "false", "off"].contains word then .ok (.bool false)
  else throw (.missingKey (.str word))

/-- The value of a digit in a base up to sixteen. -/
def digitValue? (base : Nat) (c : Char) : Option Nat :=
  let n :=
    if isDigit c then c.toNat - 48
    else if 'a' ≤ c ∧ c ≤ 'f' then c.toNat - 87
    else if 'A' ≤ c ∧ c ≤ 'F' then c.toNat - 55
    else base
  if n < base then some n else none

/-- The refusal of a whole number. -/
def noInt (base : Nat) (cs : List Char) : Fault :=
  .malformed <|
    s!"invalid literal for int() with base {toString base}: {Text.quoted (String.ofList cs)}"

/-- The digits of a number after the mark of its base. -/
def unmarked (mark : Char) : List Char → List Char
  | '0' :: c :: rest => if c.toLower == mark then rest else '0' :: c :: rest
  | rest => rest

/-- A number in a base up to sixteen. Blanks around it are ignored, and it may begin with a sign and with the
mark of its base. -/
def readBase (base : Nat) (mark : Char) (cs : List Char) : Reading Int :=
  let (negative, body) := Number.splitSign ((Text.trimChars cs).map Number.plainDigit)
  let digits := unmarked mark body
  match digits.foldlM (fun n c => (digitValue? base c).map (base * n + ·)) 0 with
  | some (n : Nat) =>
    if digits.isEmpty then throw (noInt base cs) else .ok (if negative then -n else n)
  | none => throw (noInt base cs)

/-- A number in base ten. -/
def readTen (cs : List Char) : Reading Int :=
  match Number.readInt (String.ofList cs) with
  | .ok n => .ok n
  | .error .malformed => throw (noInt 10 cs)
  | .error (.tooLong n) => throw (.longNumeral n)

/-- A whole number without its sign. -/
def readUnsigned : List Char → Reading Int
  | ['0'] => .ok 0
  | '0' :: 'b' :: rest => readBase 2 'b' rest
  | '0' :: 'x' :: rest => readBase 16 'x' rest
  | '0' :: rest => readBase 8 'o' ('0' :: rest)
  | cs => do (parts cs).foldlM (fun n part => do return 60 * n + (← readTen part)) 0

/-- A text begins with a minus. -/
def isNegative (cs : List Char) : Bool := cs.head? == some '-'

/-- A whole number. -/
def readInt (s : String) : Reading Scalar := do
  let cs := s.toList.filter (· != '_')
  if cs.isEmpty then throw (.index "string")
  let n ← readUnsigned (unsigned cs)
  return .int (if isNegative cs then -n else n)

def readTenFloat (cs : List Char) : Reading Float :=
  match Number.readNumber (String.ofList cs) with
  | some n => .ok n.toFloat
  | none => throw (.notNumeral (String.ofList cs))

/-- A float in base sixty: the parts are added up from the last. -/
def readSixtyFloat (cs : List Char) : Reading Float := do
  let places ← (parts cs).reverse.mapM readTenFloat
  let (total, _) := places.foldl (fun (total, unit) x => (total + x * unit, unit * 60.0)) (0.0, 1.0)
  return total

def readFloat (s : String) : Reading Scalar := do
  let cs := (Text.lower s).toList.filter (· != '_')
  let body := unsigned cs
  let x ←
    if body == ".inf".toList then pure (1.0 / 0.0)
    else if body == ".nan".toList then pure (0.0 / 0.0)
    else if body.contains ':' then readSixtyFloat body
    else readTenFloat body
  return .float (if isNegative cs then -x else x)

def readTimestamp (s : String) : Reading Scalar :=
  match moment? s.toList with
  | some m => m.scalar
  | none => throw (.noPart "NoneType" "groupdict")

def read (s : String) : Kind → Reading Scalar
  | .null => .ok .null
  | .bool => readBool s
  | .int => readInt s
  | .float => readFloat s
  | .timestamp => readTimestamp s
  | .str => .ok (.str s)
  | .merge => throw .unreadable
  | .equals => throw .unreadable

end Kind
end SupplyGate.Yaml
