import StoredCall.Value.Date

/-!
# Times

Times of the day, alone, with a date, and with a date and an offset from universal time. A minute
may have a second numbered 60, a leap second, which is a moment of its own: it is not the first
second of the minute after it.

* `Time.ofText?`, `DateTime.ofText?`, `OffsetDateTime.ofText?`: read `12:34:56.5`,
  `2024-06-07 12:34:56` and `2024-06-07T12:34:56+02:00`;
* `Time.text`, `DateTime.text`, `OffsetDateTime.text`: the same as text, where a fraction has three,
  six or nine digits;
* `OffsetDateTime.sameInstant`: two texts of one instant, written with any two offsets.
-/

namespace StoredCall

/-! ## Times of the day -/

structure Time where
  hour : Nat
  minute : Nat
  second : Nat
  nanos : Nat
  inDay : hour < 24 ∧ minute < 60 ∧ second ≤ 60 ∧ nanos < Nat.pow 10 9
deriving DecidableEq

namespace Time

/-- The time of the given numbers, if the day has it. -/
def ofNumbers? (hour minute second nanos : Nat) : Option Time :=
  if h : hour < 24 ∧ minute < 60 ∧ second ≤ 60 ∧ nanos < Nat.pow 10 9 then
    some ⟨hour, minute, second, nanos, h⟩
  else none

/-- Reads a fraction of a second at the front of a text. The digits after the ninth count for
nothing. -/
def leadingNanos? : List Char → Option (Nat × List Char)
  | '.' :: cs =>
    match Text.leadingDigits cs with
    | ([], _) => none
    | (digits, rest) =>
      some (Text.numberOf (digits.take 9) * Nat.pow 10 (9 - digits.length), rest)
  | cs => some (0, cs)

/-- Reads a time at the front of a text; the seconds may be missing. -/
def leading? (cs : List Char) : Option (Time × List Char) :=
  match Text.leadingNumber? 2 cs with
  | some (hour, ':' :: cs) => do
    let (minute, cs) ← Text.leadingNumber? 2 cs
    let (second, nanos, rest) ← match cs with
      | ':' :: cs => do
        let (second, cs) ← Text.leadingNumber? 2 cs
        let (nanos, rest) ← leadingNanos? cs
        pure (second, nanos, rest)
      | rest => pure (0, 0, rest)
    return (← ofNumbers? hour minute second nanos, rest)
  | _ => none

/-- Reads a time. -/
def ofText? (s : String) : Option Time :=
  match leading? s.toList with
  | some (t, []) => some t
  | _ => none

/-- The digits of a fraction of a second: none for a full second, else the fewest of three, six and
nine that show it. -/
def fractionText (nanos : Nat) : List Char :=
  if nanos = 0 then []
  else if nanos % Nat.pow 10 6 = 0 then '.' :: Text.padded 10 3 (nanos / Nat.pow 10 6)
  else if nanos % Nat.pow 10 3 = 0 then '.' :: Text.padded 10 6 (nanos / Nat.pow 10 3)
  else '.' :: Text.padded 10 9 nanos

def chars (t : Time) : List Char :=
  Text.padded 10 2 t.hour ++ ':' :: Text.padded 10 2 t.minute ++ ':' :: Text.padded 10 2 t.second ++
    fractionText t.nanos

def text (t : Time) : String := String.ofList t.chars

end Time

/-! ## Times with a date -/

structure DateTime where
  date : Date
  time : Time
deriving DecidableEq

namespace DateTime

/-- Reads a date and a time at the front of a text, with a blank or the letter T between them. -/
def leading? (cs : List Char) : Option (DateTime × List Char) := do
  let (date, cs) ← Date.leading? cs
  match cs with
  | c :: cs =>
    if c = ' ' ∨ c = 'T' ∨ c = 't' then
      let (time, rest) ← Time.leading? cs
      return (⟨date, time⟩, rest)
    else none
  | [] => none

/-- Reads a date with a time. -/
def ofText? (s : String) : Option DateTime :=
  match leading? s.toList with
  | some (t, []) => some t
  | _ => none

/-- The date and the time with the given character between them. -/
def chars (separator : Char) (t : DateTime) : List Char := t.date.chars ++ separator :: t.time.chars

def text (t : DateTime) : String := String.ofList (t.chars ' ')

/-- The number of whole minutes since the first of March of the year 0. -/
def minuteNumber (t : DateTime) : Int :=
  1440 * t.date.dayNumber + 60 * t.time.hour + t.time.minute

end DateTime

/-! ## Times with an offset -/

/-- A local date and time, and the minutes by which local time is ahead of universal time. -/
structure OffsetDateTime where
  moment : DateTime
  offset : Int
deriving DecidableEq

namespace OffsetDateTime

/-- Reads an offset of less than a day: `Z` for none, or hours and minutes after a sign. -/
def offset? : List Char → Option Int
  | ['Z'] => some 0
  | ['z'] => some 0
  | sign :: cs =>
    match Text.leadingNumber? 2 cs with
    | some (hours, ':' :: cs) => do
      let (minutes, rest) ← Text.leadingNumber? 2 cs
      let total : Int := 60 * hours + minutes
      if hours < 24 ∧ minutes < 60 ∧ rest.isEmpty then
        if sign = '+' then some total
        else if sign = '-' ∨ sign = '\u2212' then some (-total)
        else none
      else none
    | _ => none
  | [] => none

/-- Reads a date, a time and an offset. -/
def ofText? (s : String) : Option OffsetDateTime := do
  let (moment, zone) ← DateTime.leading? s.toList
  return ⟨moment, ← offset? zone⟩

/-- The hours and minutes of an offset after its sign. -/
def offsetText (offset : Int) : List Char :=
  (if offset < 0 then '-' else '+') ::
    Text.padded 10 2 (offset.natAbs / 60) ++ ':' :: Text.padded 10 2 (offset.natAbs % 60)

def text (t : OffsetDateTime) : String := String.ofList (t.moment.chars 'T' ++ offsetText t.offset)

/-- The minute of universal time. -/
def minuteNumber (t : OffsetDateTime) : Int := t.moment.minuteNumber - t.offset

/-- Equality of the instants: one minute of universal time, and in it one second and fraction. -/
def sameInstant (a b : OffsetDateTime) : Bool :=
  a.minuteNumber == b.minuteNumber && a.moment.time.second == b.moment.time.second
    && a.moment.time.nanos == b.moment.time.nanos

end OffsetDateTime

end StoredCall
