import SupplyGate.Number.Digits
import SupplyGate.Time.Timestamp
/-!
Reading timestamps. A date is a calendar date, a week date or an ordinal date, in basic or extended
form; any one character may separate it from a time of day with an optional fraction and an optional
offset. Each component is a small signed whole number, so that a calendar that does not have the
day, and not the reader of digits, refuses it. `24:00` is midnight of the next day.
-/
namespace SupplyGate.Iso8601

/-- Why a text is no timestamp. -/
inductive Refusal where
  | malformed
  | outOfRange
  deriving DecidableEq

/-- Blanks around a component. -/
def isBlank (c : Char) : Bool := c == ' ' || ('\t' ≤ c && c ≤ '\r')

/-- A run of digits in which single low lines may stand between two digits. -/
def readDigits (value : Nat) : List Char → Option Nat
  | [] => none
  | [c] => if c.isDigit then some (10 * value + (c.toNat - 48)) else none
  | c :: '_' :: rest => if c.isDigit then readDigits (10 * value + (c.toNat - 48)) rest else none
  | c :: rest => if c.isDigit then readDigits (10 * value + (c.toNat - 48)) rest else none

/-- A component: a whole number with an optional sign, blanks around it ignored. -/
def component (cs : List Char) : Option Int :=
  let cs := ((cs.dropWhile isBlank).reverse.dropWhile isBlank).reverse
  match cs with
  | '-' :: ds => (readDigits 0 ds).map fun n => -(n : Int)
  | '+' :: ds => (readDigits 0 ds).map fun n => (n : Int)
  | ds => (readDigits 0 ds).map fun n => (n : Int)

/-- The day with these components, if the calendar has it. -/
def dateOf? (year month day : Int) : Option Date :=
  if year < 0 || month < 0 || day < 0 then none else Date.of? year.toNat month.toNat day.toNat

/-! ## Dates -/

/-- Year, month and day as read, not yet looked up in the calendar. -/
abbrev Civil := Int × Int × Int

/-- A calendar date: year, year and month with a dash, or year, month and day. -/
def readCivil (cs : List Char) : Option (Civil × List Char) := do
  if cs.length < 4 then none
  let year ← component (cs.take 4)
  match cs.drop 4 with
  | [] => some ((year, 1, 1), [])
  | '-' :: rest =>
    if rest.length < 2 then none
    let month ← component (rest.take 2)
    match rest.drop 2 with
    | [] => some ((year, month, 1), [])
    | '-' :: rest =>
      if rest.length < 2 then none
      let day ← component (rest.take 2)
      some ((year, month, day), rest.drop 2)
    | _ => none
  | rest =>
    if rest.length < 4 then none
    let month ← component (rest.take 2)
    let day ← component ((rest.drop 2).take 2)
    some ((year, month, day), rest.drop 4)

/-- The day that a date denotes, kept as components. -/
def civilOf (d : Date) : Civil := (d.year, d.month, d.day)

/-- The first day of week 1: the Monday of the week that holds the fourth of January. -/
def firstMonday (year : Int) : Except Refusal Nat :=
  match dateOf? year 1 4 with
  | some d => .ok (d.ordinal - (d.weekday - 1))
  | none => .error .malformed

def dayNumbered (n : Nat) : Except Refusal Civil :=
  match Date.ofOrdinal? n with
  | some d => .ok (civilOf d)
  | none => .error .outOfRange

def weekDate (year week day : Int) : Except Refusal Civil := do
  if !(0 < week && week < 54) || !(0 < day && day < 8) then .error .malformed
  let monday ← firstMonday year
  dayNumbered (monday + ((week - 1) * 7 + (day - 1)).toNat)

def ordinalDate (year day : Int) : Except Refusal Civil :=
  match dateOf? year 1 1 with
  | none => .error .malformed
  | some d =>
    if 1 ≤ day && day ≤ Calendar.daysInYear d.year then dayNumbered (d.ordinal + day.toNat - 1)
    else .error .malformed

/-- A reader's answer as a refusal. -/
def orMalformed {α : Type} : Option α → Except Refusal α
  | some a => .ok a
  | none => .error .malformed

/-- A week date or an ordinal date. -/
def readSpecial (cs : List Char) : Except Refusal (Civil × List Char) := do
  if cs.length < 4 then .error .malformed
  let year ← orMalformed (component (cs.take 4))
  let (dashed, rest) := match cs.drop 4 with
    | '-' :: rest => (true, rest)
    | rest => (false, rest)
  match rest with
  | 'W' :: rest =>
    let week ← orMalformed (component (rest.take 2))
    match rest.drop 2 with
    | [] => return (← weekDate year week 1, [])
    | c :: rest =>
      if (c == '-') != dashed then .error .malformed
      let digits := if dashed then rest else c :: rest
      let day ← orMalformed (component (digits.take 1))
      return (← weekDate year week day, digits.drop 1)
  | rest =>
    if rest.length < 3 then .error .malformed
    let day ← orMalformed (component (rest.take 3))
    return (← ordinalDate year day, rest.drop 3)

/-- A date in any form, and the characters after it. -/
def readDate (cs : List Char) : Except Refusal (Civil × List Char) :=
  match readCivil cs with
  | some r => .ok r
  | none => readSpecial cs

/-! ## Times of day -/

/-- A time of day as read. -/
structure Clock where
  hour : Int := 0
  minute : Int := 0
  second : Int := 0
  micro : Nat := 0
  offset : Option Int := none

/-- An offset: `Z`, or a sign, hours, and perhaps minutes with or without a colon. -/
def readOffset (cs : List Char) : Option Int :=
  if cs == ['Z'] || cs == ['z'] then some 0
  else do
    if cs.length != 3 && cs.length != 5 && cs.length != 6 then none
    let sign : Int ← match cs with
      | '-' :: _ => some (-1)
      | '+' :: _ => some 1
      | _ => none
    let hours ← component ((cs.drop 1).take 2)
    let minutes ← match cs.drop 3 with
      | [] => some 0
      | ':' :: rest => component rest
      | rest => component rest
    if hours == 0 && minutes == 0 then some 0
    else if 59 < minutes || 23 < hours then none
    else some (sign * (hours * 60 + minutes))

/-- A fraction of a second: a point or a comma and digits. -/
def readFraction : List Char → Option (Nat × List Char)
  | c :: rest =>
    let digits := rest.takeWhile Char.isDigit
    if (c == '.' || c == ',') && !digits.isEmpty then
      some (Number.fractionValue 6 digits, rest.dropWhile Char.isDigit)
    else none
  | [] => none

/-- The colon before minutes and seconds: the one before the minutes decides for both. -/
def readColon (index : Nat) (colons : Bool) : List Char → Option (Bool × List Char)
  | ':' :: rest => if index = 1 || (index = 2 && colons) then some (index = 1 || colons, rest)
                   else some (colons, ':' :: rest)
  | rest => if index = 2 && colons then none else some (colons, rest)

/-- The component with this index put into a time of day. -/
def Clock.set (clock : Clock) (index : Nat) (value : Int) : Clock :=
  match index with
  | 0 => { clock with hour := value }
  | 1 => { clock with minute := value }
  | _ => { clock with second := value }

/-- The components of a time of day from `index` on; an offset may follow any of them. -/
def readClockFrom (steps index : Nat) (colons : Bool) (clock : Clock) : List Char → Option Clock
  | [] => some clock
  | c :: rest =>
    match steps with
    | 0 => none
    | steps + 1 =>
      if c == '-' || c == '+' || c == 'Z' || c == 'z' then
        (readOffset (c :: rest)).map fun o => { clock with offset := some o }
      else do
        let (colons, cs) ← readColon index colons (c :: rest)
        if index < 3 then
          let value ← component (cs.take 2)
          readClockFrom steps (index + 1) colons (clock.set index value) (cs.drop 2)
        else if index = 3 then
          match readFraction cs with
          | some (micro, cs) => readClockFrom steps (index + 1) colons { clock with micro } cs
          | none => readClockFrom steps (index + 1) colons clock cs
        else readClockFrom steps (index + 1) colons clock cs

def readClock (cs : List Char) : Option Clock :=
  if cs.length < 2 then none else readClockFrom 6 0 false {} cs

/-! ## Timestamps -/

/-- A whole number as an element of `Fin`, if it is in range. -/
def fin? (bound : Nat) (n : Int) : Option (Fin bound) :=
  if h : 0 ≤ n ∧ n.toNat < bound then some ⟨n.toNat, h.2⟩ else none

def assemble (civil : Civil) (clock : Clock) : Except Refusal Timestamp := do
  let next := clock.hour == 24
  if next && (clock.minute != 0 || clock.second != 0 || clock.micro != 0) then .error .malformed
  let (year, month, day) := civil
  let date ← orMalformed (dateOf? year month day)
  let hour ← orMalformed (fin? 24 (if next then 0 else clock.hour))
  let minute ← orMalformed (fin? 60 clock.minute)
  let second ← orMalformed (fin? 60 clock.second)
  let micro ← orMalformed (fin? 1000000 clock.micro)
  let offset ← match clock.offset with
    | none => .ok none
    | some m => orMalformed ((Offset.of? m).map some)
  let t : Timestamp := { date, hour, minute, second, micro, offset }
  if next then
    match t.addDays? 1 with
    | some t => .ok t
    | none => .error .outOfRange
  else .ok t

def readChars (cs : List Char) : Except Refusal Timestamp := do
  if cs.any (128 ≤ ·.toNat) then .error .malformed
  let (civil, rest) ← readDate cs
  match rest with
  | [] => assemble civil {}
  | _ :: rest => assemble civil (← orMalformed (readClock rest))

def read (s : String) : Except Refusal Timestamp := readChars s.toList

end SupplyGate.Iso8601
