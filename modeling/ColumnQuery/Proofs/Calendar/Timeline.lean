import ColumnQuery.Calendar
import Mathlib.Order.Monotone.Basic

/-! Dates and times on one line. Days are counted from the first day of the year zero, in the calendar
that is carried on to all years, and the count says which of two dates is earlier and what the day after a
date is. Clocks at an offset show another date and time than universal time does, and the count of seconds
tells exactly how far apart the two are, whatever month or year begins between them. -/
namespace ColumnQuery.Calendar

/-! ## Days -/

/-- The days before a year: every year has 365, and there is one more for each leap year before it. -/
def daysBeforeYear (year : Int) : Int :=
  365 * year + (year + 3) / 4 - (year + 99) / 100 + (year + 399) / 400

/-- The days of the first so many months of a year. -/
def daysOfMonths (year : Int) : Nat → Nat
  | 0 => 0
  | months + 1 => daysOfMonths year months + daysIn year (months + 1)

/-- The days before a date. -/
def Date.dayNumber (d : Date) : Int :=
  daysBeforeYear d.year + daysOfMonths d.year (d.month - 1) + (d.day - 1)

/-- The rule of the Gregorian calendar. -/
theorem isLeap_iff {year : Int} :
    isLeap year = true ↔ year % 4 = 0 ∧ (year % 100 ≠ 0 ∨ year % 400 = 0) := by
  simp [isLeap]

theorem daysOfMonths_whole (year : Int) :
    (daysOfMonths year 12 : Int) = if isLeap year then 366 else 365 := by
  cases leap : isLeap year <;> simp [daysOfMonths, daysIn, leap]

/-- The months of a year are its days, so the next year begins after them. -/
theorem daysBeforeYear_next (year : Int) :
    daysBeforeYear (year + 1) = daysBeforeYear year + daysOfMonths year 12 := by
  rw [daysOfMonths_whole, daysBeforeYear, daysBeforeYear]
  by_cases leap : isLeap year = true
  · rw [if_pos leap]
    have rule := isLeap_iff.mp leap
    omega
  · rw [if_neg leap]
    have rule := mt isLeap_iff.mpr leap
    omega

theorem daysOfMonths_mono (year : Int) : Monotone (daysOfMonths year) :=
  monotone_nat_of_le_succ fun _ => Nat.le_add_right ..

theorem daysOfMonths_last (year : Int) {month : Nat} (positive : 1 ≤ month) :
    daysOfMonths year month = daysOfMonths year (month - 1) + daysIn year month := by
  obtain ⟨before, rfl⟩ : ∃ before, month = before + 1 := ⟨month - 1, by omega⟩
  rw [daysOfMonths, Nat.add_sub_cancel]

/-- A date is within its month. -/
theorem day_within_month (d : Date) :
    daysOfMonths d.year (d.month - 1) + d.day ≤ daysOfMonths d.year d.month := by
  have within := d.day_le
  rw [daysOfMonths_last d.year d.month_pos]
  omega

/-- A date is within its year. -/
theorem day_within_year (d : Date) :
    daysOfMonths d.year (d.month - 1) + d.day ≤ daysOfMonths d.year 12 :=
  (day_within_month d).trans (daysOfMonths_mono d.year d.month_le)

/-- A year begins after all days of the years before it. -/
theorem daysBeforeYear_lt {year later : Int} (before : year < later) :
    daysBeforeYear year + daysOfMonths year 12 ≤ daysBeforeYear later := by
  rw [← daysBeforeYear_next]
  unfold daysBeforeYear
  omega

/-- Year, month and day in this order decide which of two dates is earlier. -/
def Date.Before (d other : Date) : Prop :=
  d.year < other.year ∨ d.year = other.year ∧
    (d.month < other.month ∨ d.month = other.month ∧ d.day < other.day)

/-- Days are numbered in order. -/
theorem dayNumber_lt_of_before {d other : Date} (before : d.Before other) :
    d.dayNumber < other.dayNumber := by
  have first := d.day_pos
  have second := other.day_pos
  unfold Date.dayNumber
  rcases before with earlier | ⟨sameYear, earlier | ⟨sameMonth, earlier⟩⟩
  · have years := daysBeforeYear_lt earlier
    have within := day_within_year d
    omega
  · have within := day_within_month d
    have months := daysOfMonths_mono d.year (Nat.le_sub_one_of_lt earlier)
    rw [← sameYear]
    omega
  · rw [← sameYear, ← sameMonth]
    omega

theorem before_or_after (d other : Date) : d.Before other ∨ d = other ∨ other.Before d := by
  unfold Date.Before
  rcases Int.lt_trichotomy d.year other.year with year | year | year
  · exact .inl (.inl year)
  · rcases Nat.lt_trichotomy d.month other.month with month | month | month
    · exact .inl (.inr ⟨year, .inl month⟩)
    · rcases Nat.lt_trichotomy d.day other.day with day | day | day
      · exact .inl (.inr ⟨year, .inr ⟨month, day⟩⟩)
      · cases d
        cases other
        simp only at year month day
        subst year month day
        exact .inr (.inl rfl)
      · exact .inr (.inr (.inr ⟨year.symm, .inr ⟨month.symm, day⟩⟩))
    · exact .inr (.inr (.inr ⟨year.symm, .inl month⟩))
  · exact .inr (.inr (.inl year))

/-- Days are counted in the order of the calendar. -/
theorem dayNumber_lt_iff {d other : Date} : d.dayNumber < other.dayNumber ↔ d.Before other := by
  constructor
  · intro less
    rcases before_or_after d other with before | rfl | after
    · exact before
    · omega
    · have more := dayNumber_lt_of_before after
      omega
  · exact dayNumber_lt_of_before

/-- A date is its number. -/
theorem dayNumber_inj {d other : Date} : d.dayNumber = other.dayNumber ↔ d = other := by
  constructor
  · intro same
    rcases before_or_after d other with before | equal | after
    · have less := dayNumber_lt_of_before before
      omega
    · exact equal
    · have more := dayNumber_lt_of_before after
      omega
  · rintro rfl
    rfl

/-- The next date is one day later. -/
theorem dayNumber_next (d : Date) : d.next.dayNumber = d.dayNumber + 1 := by
  have day := d.day_pos
  have month := daysOfMonths_last d.year d.month_pos
  unfold Date.next
  split
  · simp only [Date.dayNumber]
    omega
  · next last =>
    have fits := d.day_le
    split
    · simp only [Date.dayNumber, Nat.add_sub_cancel]
      omega
    · next december =>
      have twelfth : d.month = 12 := Nat.le_antisymm d.month_le (by omega)
      have year := daysBeforeYear_next d.year
      have january : daysOfMonths (d.year + 1) (1 - 1) = 0 := rfl
      rw [twelfth] at month last fits
      simp only [Date.dayNumber, twelfth]
      omega

/-- The date before is one day earlier. -/
theorem dayNumber_previous (d : Date) : d.previous.dayNumber = d.dayNumber - 1 := by
  have day := d.day_pos
  unfold Date.previous
  split
  · simp only [Date.dayNumber]
    omega
  · next first =>
    split
    · next after =>
      have month := daysOfMonths_last d.year after
      have days := daysIn_pos d.year (d.month - 1)
      simp only [Date.dayNumber]
      omega
    · next january =>
      have firstMonth : d.month = 1 := Nat.le_antisymm (by omega) d.month_pos
      have year := daysBeforeYear_next (d.year - 1)
      have december : daysOfMonths (d.year - 1) 12 = daysOfMonths (d.year - 1) (12 - 1) + 31 := by
        rw [daysOfMonths_last _ (by decide), daysIn_december]
      have none : daysOfMonths d.year (1 - 1) = 0 := rfl
      rw [Int.sub_add_cancel] at year
      simp only [Date.dayNumber, firstMonth]
      omega

/-! ## Seconds -/

/-- The whole seconds before a date and time. -/
def DateTime.seconds (d : DateTime) : Int :=
  d.date.dayNumber * 86400 + d.time.secondOfDay

/-- The nanoseconds before a date and time. -/
def DateTime.nanoseconds (d : DateTime) : Int :=
  d.seconds * 1000000000 + d.time.nanos

/-- The nanoseconds of a day before a time. -/
def Time.nanosecondOfDay (t : Time) : Nat :=
  t.secondOfDay * 1000000000 + t.nanos

theorem secondOfDay_lt (t : Time) : t.secondOfDay < 86400 := by
  have hour := t.hour_lt
  have minute := t.minute_lt
  have second := t.second_lt
  unfold Time.secondOfDay
  omega

theorem secondOfDay_atSecond (t : Time) {second : Nat} (within : second < 86400) :
    (t.atSecond second).secondOfDay = second := by
  simp only [Time.secondOfDay, Time.atSecond]
  omega

/-- What clocks at an offset show is as many seconds away from universal time as the offset says, on
whichever day that is. -/
theorem seconds_ofLocal (shown : DateTime) (offset : Offset) :
    (Instant.ofLocal shown offset).utc.seconds = shown.seconds - offset.east := by
  have day := secondOfDay_lt shown.time
  have above := offset.above
  have below := offset.below
  have within : (((shown.time.secondOfDay : Int) - offset.east) % 86400).toNat < 86400 := by omega
  -- an offset is less than a day, so at most one midnight lies between the clocks
  simp only [Instant.ofLocal, DateTime.seconds, secondOfDay_atSecond _ within]
  split
  · rw [dayNumber_previous]
    omega
  · split
    · rw [dayNumber_next]
      omega
    · omega

theorem nanos_ofLocal (shown : DateTime) (offset : Offset) :
    (Instant.ofLocal shown offset).utc.time.nanos = shown.time.nanos :=
  rfl

theorem nanoseconds_ofLocal (shown : DateTime) (offset : Offset) :
    (Instant.ofLocal shown offset).utc.nanoseconds =
      shown.nanoseconds - offset.east * 1000000000 := by
  rw [DateTime.nanoseconds, seconds_ofLocal, nanos_ofLocal, DateTime.nanoseconds]
  omega

/-! ## Moments -/

/-- A moment of universal time, as its minute and the nanoseconds since that began. A minute with a leap
second has more of them, which is why they are not counted on from minute to minute. -/
structure Moment where
  minute : Int
  nanos : Int
deriving DecidableEq

/-- The moment after whole seconds and nanoseconds. A leap second prolongs the minute. -/
def Moment.ofSeconds (seconds : Int) (nanos : Nat) : Moment :=
  ⟨seconds / 60, seconds % 60 * 1000000000 + nanos⟩

/-- The moment at which clocks at an offset show a date and time. -/
def Moment.ofLocal (shown : DateTime) (offset : Offset) : Moment :=
  .ofSeconds (shown.seconds - offset.east) shown.time.nanos

/-- The moment of a date and time in universal time. -/
def DateTime.moment (utc : DateTime) : Moment :=
  .ofSeconds utc.seconds utc.time.nanos

/-- Moments with the same milliseconds, the finer part cut off. -/
def Moment.SameMillisecond (moment other : Moment) : Prop :=
  moment.minute = other.minute ∧ moment.nanos / 1000000 = other.nanos / 1000000

/-- The instant that is meant is the local time less the offset. -/
theorem moment_ofLocal (shown : DateTime) (offset : Offset) :
    (Instant.ofLocal shown offset).utc.moment = .ofLocal shown offset := by
  rw [DateTime.moment, seconds_ofLocal, nanos_ofLocal, Moment.ofLocal]

/-- Without leap seconds, the nanoseconds can be counted on. -/
theorem sameMillisecond_iff {seconds others : Int} {nanos more : Nat} (left : nanos < 1000000000)
    (right : more < 1000000000) :
    (Moment.ofSeconds seconds nanos).SameMillisecond (.ofSeconds others more) ↔
      (seconds * 1000000000 + nanos) / 1000000 = (others * 1000000000 + more) / 1000000 := by
  simp only [Moment.ofSeconds, Moment.SameMillisecond]
  omega

end ColumnQuery.Calendar
