import SupplyGate.Time.Calendar
/-!
Timestamps: a day, a time of day to the microsecond and perhaps an offset from universal time.
`Timestamp.instant` counts microseconds of universal time, and two timestamps with offsets are
compared as instants. `Timestamp.format` writes the one form in which records keep timestamps.
-/
namespace SupplyGate

/-- A distance from universal time of less than a day, in minutes east. -/
structure Offset where
  minutes : Int
  bounded : -1440 < minutes ∧ minutes < 1440
  deriving DecidableEq

namespace Offset

def utc : Offset := ⟨0, by decide⟩

/-- The offset of this many minutes, if it is less than a day. -/
def of? (minutes : Int) : Option Offset :=
  if h : -1440 < minutes ∧ minutes < 1440 then some ⟨minutes, h⟩ else none

end Offset

/-- A point in local time. Without an offset it says nothing about universal time. -/
structure Timestamp where
  date : Date
  hour : Fin 24
  minute : Fin 60
  second : Fin 60
  micro : Fin 1000000
  offset : Option Offset
  deriving DecidableEq

namespace Timestamp

def dayLength : Int := 86400000000

def sinceMidnight (t : Timestamp) : Int :=
  ((t.hour.val * 60 + t.minute.val) * 60 + t.second.val) * 1000000 + t.micro.val

/-- Microseconds of local time since the start of the calendar. -/
def localInstant (t : Timestamp) : Int := (t.date.ordinal - 1) * dayLength + t.sinceMidnight

def shift (offset : Option Offset) : Int := (offset.map (·.minutes)).getD 0 * 60000000

/-- Microseconds of universal time since the start of the calendar. -/
def instant (t : Timestamp) : Int := t.localInstant - shift t.offset

/-- The timestamp of this local instant at this offset, if the calendar has it. -/
def ofLocalInstant? (n : Int) (offset : Option Offset) : Option Timestamp := do
  let date ← if 0 ≤ n then Date.ofOrdinal? ((n / dayLength).toNat + 1) else none
  let micros := (n % dayLength).toNat
  let seconds := micros / 1000000
  some {
    date
    hour := Fin.ofNat 24 (seconds / 3600)
    minute := Fin.ofNat 60 (seconds / 60)
    second := Fin.ofNat 60 seconds
    micro := Fin.ofNat 1000000 micros
    offset }

/-- The same local time, taken as universal time if it has no offset. -/
def assumeUtc (t : Timestamp) : Timestamp :=
  if t.offset.isSome then t else { t with offset := some Offset.utc }

/-- The same instant in universal time, if the calendar has it. -/
def toUtc? (t : Timestamp) : Option Timestamp := ofLocalInstant? t.instant (some Offset.utc)

/-- The same time of day some days later, if the calendar has that day. -/
def addDays? (t : Timestamp) (days : Int) : Option Timestamp := do
  let n : Int := t.date.ordinal + days
  let date ← if 0 < n then Date.ofOrdinal? n.toNat else none
  some { t with date }

/-- Whole days from one instant to a later one, rounded down. -/
def daysSince (later earlier : Timestamp) : Int := (later.instant - earlier.instant).fdiv dayLength

/-- Strictly later. -/
def isAfter (a b : Timestamp) : Bool := b.instant < a.instant

/-! ## Writing -/

/-- A number in at least `width` digits. -/
def padded (width n : Nat) : List Char :=
  let ds := Nat.toDigits 10 n
  List.replicate (width - ds.length) '0' ++ ds

/-- A day as year, month and day of month. -/
def formatDate (d : Date) : List Char :=
  padded 4 d.year ++ '-' :: padded 2 d.month ++ '-' :: padded 2 d.day

/-- An offset as signed hours and minutes. -/
def formatOffset : Option Offset → List Char
  | none => []
  | some o =>
    let m := o.minutes.natAbs
    (if o.minutes < 0 then '-' else '+') :: padded 2 (m / 60) ++ ':' :: padded 2 (m % 60)

/-- The characters of a timestamp; `mark` stands between day and time. Microseconds are written
only if there are any. -/
def formatWith (mark : Char) (t : Timestamp) : List Char :=
  formatDate t.date ++ mark :: padded 2 t.hour ++ ':' :: padded 2 t.minute ++ ':' ::
    padded 2 t.second ++ (if t.micro.val = 0 then [] else '.' :: padded 6 t.micro) ++
    formatOffset t.offset

/-- The written form of a timestamp. -/
def format (t : Timestamp) : String := String.ofList (t.formatWith 'T')

end Timestamp

/-- The written form of a day. -/
def Date.format (d : Date) : String := String.ofList (Timestamp.formatDate d)

end SupplyGate
