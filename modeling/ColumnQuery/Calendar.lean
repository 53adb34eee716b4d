/-! Dates, times of day and instants of the proleptic Gregorian calendar, and their texts. A value of
these types is always a date or a time that exists. -/
namespace ColumnQuery.Calendar

/-- Every fourth year, but of the centuries only every fourth. -/
def isLeap (year : Int) : Bool :=
  year % 4 == 0 && (year % 100 != 0 || year % 400 == 0)

/-- The number of days in a month. -/
def daysIn (year : Int) (month : Nat) : Nat :=
  if month = 2 then if isLeap year then 29 else 28
  else if month = 4 ∨ month = 6 ∨ month = 9 ∨ month = 11 then 30
  else 31

theorem daysIn_pos (year : Int) (month : Nat) : 1 ≤ daysIn year month := by
  unfold daysIn
  split <;> split <;> decide

theorem daysIn_december (year : Int) : daysIn year 12 = 31 := by
  simp [daysIn]

/-- A day of the calendar. -/
structure Date where
  year : Int
  month : Nat
  day : Nat
  month_pos : 1 ≤ month
  month_le : month ≤ 12
  day_pos : 1 ≤ day
  day_le : day ≤ daysIn year month
deriving DecidableEq

/-- The date with these numbers, if there is one. -/
def Date.of? (year : Int) (month day : Nat) : Option Date :=
  if valid : (1 ≤ month ∧ month ≤ 12) ∧ 1 ≤ day ∧ day ≤ daysIn year month then
    some ⟨year, month, day, valid.1.1, valid.1.2, valid.2.1, valid.2.2⟩
  else none

/-- The day after. -/
def Date.next (d : Date) : Date :=
  if within : d.day + 1 ≤ daysIn d.year d.month then
    { d with day := d.day + 1, day_pos := Nat.le_add_left 1 d.day, day_le := within }
  else if before : d.month + 1 ≤ 12 then
    ⟨d.year, d.month + 1, 1, Nat.le_add_left 1 d.month, before, Nat.le_refl 1, daysIn_pos ..⟩
  else ⟨d.year + 1, 1, 1, by decide, by decide, Nat.le_refl 1, daysIn_pos ..⟩

/-- The day before. -/
def Date.previous (d : Date) : Date :=
  if within : 1 ≤ d.day - 1 then
    { d with day := d.day - 1, day_pos := within, day_le := Nat.le_trans (Nat.sub_le ..) d.day_le }
  else if after : 1 ≤ d.month - 1 then
    ⟨d.year, d.month - 1, daysIn d.year (d.month - 1), after,
      Nat.le_trans (Nat.sub_le ..) d.month_le, daysIn_pos .., Nat.le_refl _⟩
  else ⟨d.year - 1, 12, 31, by decide, by decide, by decide, Nat.le_of_eq (daysIn_december _).symm⟩

/-- A time of day with nanoseconds. A leap second is the second before it with a nanosecond count
from one billion up. -/
structure Time where
  hour : Nat
  minute : Nat
  second : Nat
  nanos : Nat
  hour_lt : hour < 24
  minute_lt : minute < 60
  second_lt : second < 60
  nanos_lt : nanos < 2000000000
deriving DecidableEq

/-- The time with these numbers, if there is one: only the last second of a minute can be followed by
a leap second. -/
def Time.of? (hour minute second nanos : Nat) : Option Time :=
  if valid : (hour < 24 ∧ minute < 60) ∧ second < 60 ∧ nanos < 2000000000 then
    if 1000000000 ≤ nanos ∧ second ≠ 59 then none
    else some ⟨hour, minute, second, nanos, valid.1.1, valid.1.2, valid.2.1, valid.2.2⟩
  else none

/-- Whole seconds since midnight. -/
def Time.secondOfDay (t : Time) : Nat :=
  (t.hour * 60 + t.minute) * 60 + t.second

/-- The time with the same nanoseconds at another second of the day, counted around the clock. -/
def Time.atSecond (t : Time) (second : Nat) : Time where
  hour := second / 3600 % 24
  minute := second / 60 % 60
  second := second % 60
  nanos := t.nanos
  hour_lt := Nat.mod_lt _ (by decide)
  minute_lt := Nat.mod_lt _ (by decide)
  second_lt := Nat.mod_lt _ (by decide)
  nanos_lt := t.nanos_lt

/-- A date with a time of day, in no particular time zone. -/
structure DateTime where
  date : Date
  time : Time
deriving DecidableEq

/-- A distance from universal time, in seconds east, of less than a day. -/
structure Offset where
  east : Int
  above : -86400 < east
  below : east < 86400
deriving DecidableEq

/-- The offset of so many seconds east, if it is less than a day. -/
def Offset.of? (east : Int) : Option Offset :=
  if valid : -86400 < east ∧ east < 86400 then some ⟨east, valid.1, valid.2⟩ else none

/-- A point in time, held as its date and time in universal time. -/
structure Instant where
  utc : DateTime
deriving DecidableEq

/-- The instant at which clocks at an offset show a date and time. The offset is less than a day, so
universal time is on the same day or a neighbour of it. -/
def Instant.ofLocal (shown : DateTime) (offset : Offset) : Instant :=
  let second := (shown.time.secondOfDay : Int) - offset.east
  let date :=
    if second < 0 then shown.date.previous
    else if 86400 ≤ second then shown.date.next
    else shown.date
  ⟨⟨date, shown.time.atSecond (second % 86400).toNat⟩⟩

/-- A number with zeros before it up to a width. -/
def padded (width n : Nat) : String :=
  let digits := toString n
  String.ofList (List.replicate (width - digits.length) '0') ++ digits

/-- A year: four digits from 0 to 9999, and a sign with at least four digits beyond. -/
def yearText (year : Int) : String :=
  if year < 0 then "-" ++ padded 4 year.natAbs
  else if 9999 < year then "+" ++ padded 4 year.natAbs
  else padded 4 year.natAbs

/-- Year, month and day. -/
def Date.text (d : Date) : String :=
  yearText d.year ++ "-" ++ padded 2 d.month ++ "-" ++ padded 2 d.day

/-- Hour, minute and second with milliseconds, the finer part cut off. A leap second is second 60. -/
def Time.text (t : Time) : String :=
  padded 2 t.hour ++ ":" ++ padded 2 t.minute ++ ":" ++
    padded 2 (t.second + t.nanos / 1000000000) ++ "." ++ padded 3 (t.nanos % 1000000000 / 1000000)

/-- A date and a time with a space between them. -/
def DateTime.text (d : DateTime) : String :=
  d.date.text ++ " " ++ d.time.text

/-- An instant in universal time. -/
def Instant.text (i : Instant) : String :=
  i.utc.date.text ++ "T" ++ i.utc.time.text ++ "Z"

end ColumnQuery.Calendar
