import StoredCall.Text.Number

/-!
# Dates

Days of the Gregorian calendar, extended to all years.

* `Date.dayNumber`: the days since the first of March of the year 0;
* `Date.leading?`: reads `2024-02-29` at the front of a text;
* `Date.text`: the day as text, with at least four digits for the year.
-/

namespace StoredCall

/-! ## The calendar -/

/-- A year of 366 days: every fourth, but of the full centuries only every fourth. -/
def isLeapYear (year : Int) : Bool := year % 4 = 0 && (year % 100 ≠ 0 || year % 400 = 0)

/-- The number of days of a month. -/
def daysOfMonth (year : Int) (month : Nat) : Nat :=
  if month = 2 then (if isLeapYear year then 29 else 28)
  else if month = 4 ∨ month = 6 ∨ month = 9 ∨ month = 11 then 30
  else 31

structure Date where
  year : Int
  month : Nat
  day : Nat
  inCalendar : 1 ≤ month ∧ month ≤ 12 ∧ 1 ≤ day ∧ day ≤ daysOfMonth year month
deriving DecidableEq

namespace Date

/-- The day of the given numbers, if the calendar has it. -/
def ofNumbers? (year : Int) (month day : Nat) : Option Date :=
  if h : 1 ≤ month ∧ month ≤ 12 ∧ 1 ≤ day ∧ day ≤ daysOfMonth year month then
    some ⟨year, month, day, h⟩
  else none

/-- The number of days since the first of March of the year 0, counting years from March on. -/
def dayNumber (d : Date) : Int :=
  let y := if d.month ≤ 2 then d.year - 1 else d.year
  let m := (d.month + 9) % 12
  365 * y + y / 4 - y / 100 + y / 400 + ((153 * m + 2) / 5 : Nat) + d.day - 1

/-! ## Reading -/

/-- Reads a year at the front of a text: four digits at most, or any number of them after a sign. -/
def leadingYear? : List Char → Option (Int × List Char)
  | '-' :: cs => (Text.leadingNumber? cs.length cs).map fun (n, rest) => (-n, rest)
  | '+' :: cs => (Text.leadingNumber? cs.length cs).map fun (n, rest) => (n, rest)
  | cs => (Text.leadingNumber? 4 cs).map fun (n, rest) => (n, rest)

/-- Reads a date at the front of a text. -/
def leading? (cs : List Char) : Option (Date × List Char) :=
  match leadingYear? cs with
  | some (year, '-' :: cs) =>
    match Text.leadingNumber? 2 cs with
    | some (month, '-' :: cs) => do
      let (day, rest) ← Text.leadingNumber? 2 cs
      return (← ofNumbers? year month day, rest)
    | _ => none
  | _ => none

/-- Reads a date. -/
def ofText? (s : String) : Option Date :=
  match leading? s.toList with
  | some (d, []) => some d
  | _ => none

/-! ## Writing -/

/-- The digits of a year, with a sign outside the years 0 to 9999. -/
def yearText (year : Int) : List Char :=
  let digits := Text.padded 10 4 year.natAbs
  if year < 0 then '-' :: digits else if 9999 < year then '+' :: digits else digits

def chars (d : Date) : List Char :=
  yearText d.year ++ '-' :: Text.padded 10 2 d.month ++ '-' :: Text.padded 10 2 d.day

def text (d : Date) : String := String.ofList d.chars

end Date

end StoredCall
