/-!
The calendar: years 1 to 9999 of the Gregorian calendar extended backwards. `Date.ordinal` counts
days from the first day of year 1, which is day 1, and `Date.ofOrdinal?` is its inverse.
-/
namespace SupplyGate

namespace Calendar

def lastYear : Nat := 9999

/-- A leap year has 366 days. -/
def isLeap (year : Nat) : Bool := year % 4 == 0 && (year % 100 != 0 || year % 400 == 0)

/-- How many days a month has; there are none outside `1 … 12`. -/
def daysInMonth (year month : Nat) : Nat :=
  match month with
  | 1 | 3 | 5 | 7 | 8 | 10 | 12 => 31
  | 4 | 6 | 9 | 11 => 30
  | 2 => if isLeap year then 29 else 28
  | _ => 0

def daysInYear (year : Nat) : Nat := if isLeap year then 366 else 365

/-- How many days lie before the first day of a year. -/
def daysBeforeYear (year : Nat) : Nat :=
  let y := year - 1
  365 * y + y / 4 - y / 100 + y / 400

/-- How many days of a year lie before the first day of a month. -/
def daysBeforeMonth (year : Nat) : Nat → Nat
  | 0 => 0
  | m + 1 => daysBeforeMonth year m + daysInMonth year m

/-- The month and day of month of a day of the year, searched from `month` on. -/
def monthAndDay (year month : Nat) (fuel : Nat) (day : Nat) : Nat × Nat :=
  match fuel with
  | 0 => (month, day)
  | n + 1 =>
    if day ≤ daysInMonth year month then (month, day)
    else monthAndDay year (month + 1) n (day - daysInMonth year month)

/-- The year in which the day with this number lies: the mean length of a year gives it up to
one. -/
def yearOf (ordinal : Nat) : Nat :=
  let guess := (ordinal - 1) * 400 / 146097 + 1
  if ordinal ≤ daysBeforeYear guess then guess - 1
  else if daysBeforeYear (guess + 1) < ordinal then guess + 1
  else guess

end Calendar

open Calendar

structure Date where
  year : Nat
  month : Nat
  day : Nat
  year_mem : 1 ≤ year ∧ year ≤ lastYear
  month_mem : 1 ≤ month ∧ month ≤ 12
  day_mem : 1 ≤ day ∧ day ≤ daysInMonth year month
  deriving DecidableEq

namespace Date

/-- The day with this year, month and day of month, if the calendar has it. -/
def of? (year month day : Nat) : Option Date :=
  if h : (1 ≤ year ∧ year ≤ lastYear) ∧ (1 ≤ month ∧ month ≤ 12) ∧
      (1 ≤ day ∧ day ≤ daysInMonth year month) then
    some ⟨year, month, day, h.1, h.2.1, h.2.2⟩
  else none

/-- The number of a day, from 1 on. -/
def ordinal (d : Date) : Nat := daysBeforeYear d.year + daysBeforeMonth d.year d.month + d.day

/-- The day with this number, if the calendar has it. -/
def ofOrdinal? (n : Nat) : Option Date :=
  let year := yearOf n
  let (month, day) := monthAndDay year 1 11 (n - daysBeforeYear year)
  of? year month day

/-- The day of the week, from 1 for Monday to 7 for Sunday. -/
def weekday (d : Date) : Nat := (d.ordinal + 6) % 7 + 1

def first : Date := ⟨1, 1, 1, by decide, by decide, by decide⟩

end Date
end SupplyGate
