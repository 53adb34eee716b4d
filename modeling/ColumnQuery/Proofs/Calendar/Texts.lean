import ColumnQuery.Proofs.Calendar.Timeline
import ColumnQuery.Proofs.Decimal.Spelling
import Mathlib.Data.List.Forall2
import Mathlib.Data.String.Basic

/-! The texts of dates and times. Each is a row of numbers, the greater unit first, each of a fixed width
with zeros before it and behind a mark that is always the same. So texts are compared as the rows of numbers
are, number by number. Only a year beyond four digits has a width of its own; it has a sign then. -/
namespace ColumnQuery.Calendar

/-! ## Lists of one length -/

/-- Lists that go on after beginnings of one length are compared by these first. -/
theorem append_lt_append_iff {α : Type} [LT α] {first second more others : List α}
    (same : first.length = second.length) :
    first ++ more < second ++ others ↔ first < second ∨ first = second ∧ more < others := by
  induction first generalizing second with
  | nil =>
    rw [List.eq_nil_of_length_eq_zero same.symm]
    simp
  | cons a first ih =>
    cases second with
    | nil => cases same
    | cons b second =>
      rw [List.cons_append, List.cons_append, List.cons_lt_cons_iff, List.cons_lt_cons_iff,
        ih (Nat.succ.inj same), List.cons.injEq]
      tauto

/-! ## Numbers of a width -/

variable {width m n : Nat}

theorem toList_padded (width n : Nat) : (padded width n).toList =
    List.replicate (width - (toString n).length) '0' ++ (toString n).toList := by
  simp [padded]

theorem padded_digits (width n : Nat) : ∀ c ∈ (padded width n).toList, c.isDigit = true := by
  intro c member
  rw [toList_padded] at member
  rcases List.mem_append.mp member with zero | digit
  · rw [List.eq_of_mem_replicate zero]
    rfl
  · exact Decimal.nat_digits n c digit

/-- Zeros before a number leave its value. -/
theorem padded_value (width n : Nat) : Nat.ofDigitChars 10 (padded width n).toList 0 = n := by
  rw [toList_padded, Nat.ofDigitChars_append, Nat.ofDigitChars_replicate_zero, Nat.mul_zero,
    Decimal.ofDigitChars_nat]

theorem padded_inj (same : (padded width m).toList = (padded width n).toList) : m = n := by
  have value := congrArg (Nat.ofDigitChars 10 · 0) same
  simpa only [padded_value] using value

/-- A number that fits is padded to its width. -/
theorem padded_length (positive : 0 < width) (fits : n < 10 ^ width) :
    (padded width n).toList.length = width := by
  have digits : (toString n).toList.length ≤ width := by
    rw [Nat.toString_eq_repr, Nat.toList_repr]
    exact (Nat.length_toDigits_le_iff (by decide) positive).mpr fits
  have length : (toString n).length = (toString n).toList.length := rfl
  rw [toList_padded, List.length_append, List.length_replicate, length]
  omega

/-- Digits as many as others are compared as the numbers that they stand for, whatever numbers the digits
before them stand for. -/
theorem digits_lt_iff {first second : List Char} (same : first.length = second.length)
    (left : ∀ c ∈ first, c.isDigit = true) (right : ∀ c ∈ second, c.isDigit = true) (m n : Nat) :
    Nat.ofDigitChars 10 first m < Nat.ofDigitChars 10 second n ↔ m < n ∨ m = n ∧ first < second := by
  induction first generalizing second m n with
  | nil =>
    rw [List.eq_nil_of_length_eq_zero same.symm]
    simp [Nat.ofDigitChars]
  | cons c first ih =>
    cases second with
    | nil => cases same
    | cons d second =>
      obtain ⟨leftDigit, left⟩ := List.forall_mem_cons.mp left
      obtain ⟨rightDigit, right⟩ := List.forall_mem_cons.mp right
      have less : c < d ↔ c.toNat < d.toNat := Iff.rfl
      have zero : '0'.toNat = 48 := rfl
      have nine : '9'.toNat = 57 := rfl
      have leftValue := Char.isDigit_iff_toNat.mp leftDigit
      have rightValue := Char.isDigit_iff_toNat.mp rightDigit
      rw [Nat.ofDigitChars_cons, Nat.ofDigitChars_cons, ih (Nat.succ.inj same) left right,
        List.cons_lt_cons_iff, less, ← Char.toNat_inj]
      by_cases rest : first < second
      · simp only [rest, and_true]
        omega
      · simp only [rest, and_false, or_false]
        omega

/-- Numbers of a width are compared as their texts are. -/
theorem padded_lt_iff (positive : 0 < width) (left : m < 10 ^ width) (right : n < 10 ^ width) :
    (padded width m).toList < (padded width n).toList ↔ m < n := by
  have same : (padded width m).toList.length = (padded width n).toList.length := by
    rw [padded_length positive left, padded_length positive right]
  have order := digits_lt_iff same (padded_digits width m) (padded_digits width n) 0 0
  rw [padded_value, padded_value] at order
  simpa using order.symm

/-! ## Rows of numbers -/

section Rows

/-- The numbers of a row, each of its width and behind its mark. -/
def laidOut : List (String × Nat) → List Nat → List Char
  | (mark, width) :: layout, n :: row =>
    mark.toList ++ ((padded width n).toList ++ laidOut layout row)
  | _, _ => []

/-- Every number of a row has room in the width of its place. -/
def Fits (layout : List (String × Nat)) (row : List Nat) : Prop :=
  List.Forall₂ (fun place n => 0 < place.2 ∧ n < 10 ^ place.2) layout row

variable {layout more : List (String × Nat)} {row others behind : List Nat}

theorem laidOut_append (fits : Fits layout row) :
    laidOut (layout ++ more) (row ++ behind) = laidOut layout row ++ laidOut more behind := by
  induction fits with
  | nil => rfl
  | cons _ _ ih => simp only [List.cons_append, laidOut, ih, List.append_assoc]

/-- The layout alone says how long a row is. -/
theorem laidOut_length (first : Fits layout row) (second : Fits layout others) :
    (laidOut layout row).length = (laidOut layout others).length := by
  induction first generalizing others with
  | nil =>
    cases second
    rfl
  | cons room _ ih =>
    cases second with
    | cons space rest =>
      simp only [laidOut, List.length_append, padded_length room.1 room.2,
        padded_length space.1 space.2, ih rest]

/-- Rows of one layout are compared number by number. -/
theorem laidOut_lt_iff (first : Fits layout row) (second : Fits layout others) :
    laidOut layout row < laidOut layout others ↔ row < others := by
  induction first generalizing others with
  | nil =>
    cases second
    simp [laidOut]
  | @cons place m layout row room _ ih =>
    cases second with
    | @cons _ n _ others space rest =>
      have same : (padded place.2 m).toList.length = (padded place.2 n).toList.length := by
        rw [padded_length room.1 room.2, padded_length space.1 space.2]
      have numbers : (padded place.2 m).toList = (padded place.2 n).toList ↔ m = n :=
        ⟨padded_inj, congrArg fun number => (padded place.2 number).toList⟩
      -- the marks are the same, and numbers of one width come before what follows them
      simp only [laidOut]
      rw [append_lt_append_iff rfl, append_lt_append_iff same, padded_lt_iff room.1 room.2 space.2,
        numbers, ih rest, List.cons_lt_cons_iff]
      simp

/-- A row that fits its layout is read back from the text. -/
theorem laidOut_inj (first : Fits layout row) (second : Fits layout others)
    (same : laidOut layout row = laidOut layout others) : row = others := by
  induction first generalizing others with
  | nil =>
    cases second
    rfl
  | cons room _ ih =>
    cases second with
    | cons space rest =>
      have same := List.append_cancel_left same
      have lengths := (padded_length room.1 room.2).trans (padded_length space.1 space.2).symm
      obtain ⟨number, same⟩ := List.append_inj same lengths
      rw [padded_inj number, ih rest same]

/-- A row is written with its marks and digits. -/
theorem not_mem_laidOut {c : Char} (other : c.isDigit = false)
    (unmarked : ∀ place ∈ layout, c ∉ place.1.toList) (row : List Nat) : c ∉ laidOut layout row := by
  induction layout generalizing row with
  | nil => cases row <;> exact List.not_mem_nil
  | cons place layout ih =>
    cases row with
    | nil => exact List.not_mem_nil
    | cons n row =>
      obtain ⟨here, unmarked⟩ := List.forall_mem_cons.mp unmarked
      simp only [laidOut, List.mem_append]
      rintro (mark | digit | further)
      · exact here mark
      · rw [padded_digits _ _ c digit] at other
        cases other
      · exact ih unmarked row further

end Rows

/-! ## Years -/

theorem minus_of_yearText (year : Int) : '-' ∈ (yearText year).toList ↔ year < 0 := by
  have digits (n : Nat) : '-' ∉ (padded 4 n).toList := fun sign => by
    cases padded_digits 4 n '-' sign
  unfold yearText
  split
  · next negative => simp [negative]
  · next positive => split <;> simp [positive, digits]

theorem digits_of_yearText (year : Int) :
    (yearText year).toList.filter Char.isDigit = (padded 4 year.natAbs).toList := by
  have digits := List.filter_eq_self.mpr (padded_digits 4 year.natAbs)
  have minus : "-".toList.filter Char.isDigit = [] := rfl
  have plus : "+".toList.filter Char.isDigit = [] := rfl
  unfold yearText
  split
  · rw [String.toList_append, List.filter_append, digits, minus, List.nil_append]
  · split
    · rw [String.toList_append, List.filter_append, digits, plus, List.nil_append]
    · exact digits

/-- Years are told apart by their texts, however long these are. -/
theorem yearText_inj {year other : Int}
    (same : (yearText year).toList = (yearText other).toList) : year = other := by
  have digits := digits_of_yearText year
  rw [same, digits_of_yearText] at digits
  have magnitude := padded_inj digits
  have sign := minus_of_yearText year
  rw [same, minus_of_yearText] at sign
  omega

theorem not_mem_yearText {c : Char} (other : c.isDigit = false) (minus : c ≠ '-') (plus : c ≠ '+')
    (year : Int) : c ∉ (yearText year).toList := by
  have digits : c ∉ (padded 4 year.natAbs).toList := fun digit => by
    rw [padded_digits _ _ c digit] at other
    cases other
  unfold yearText
  split
  · simp [minus, digits]
  · split
    · simp [plus, digits]
    · exact digits

/-- A year of four digits has no sign. -/
theorem yearText_of_four_digits {year : Int} (positive : 0 ≤ year) (small : year ≤ 9999) :
    (yearText year).toList = laidOut [("", 4)] [year.toNat] := by
  have magnitude : year.natAbs = year.toNat := by omega
  rw [yearText, if_neg (Int.not_lt.mpr positive), if_neg (Int.not_lt.mpr small), magnitude]
  simp [laidOut]

/-! ## Dates and times -/

/-- How the month and the day are laid out behind the year. -/
def dateLayout : List (String × Nat) :=
  [("-", 2), ("-", 2)]

/-- How a time is laid out, behind a mark. -/
def timeLayout (mark : String) : List (String × Nat) :=
  [(mark, 2), (":", 2), (":", 2), (".", 3)]

/-- The numbers of a date behind the year. -/
def Date.fields (d : Date) : List Nat :=
  [d.month, d.day]

/-- The numbers of a time. -/
def Time.fields (t : Time) : List Nat :=
  [t.hour, t.minute, t.second + t.nanos / 1000000000, t.nanos % 1000000000 / 1000000]

theorem daysIn_le (year : Int) (month : Nat) : daysIn year month ≤ 31 := by
  unfold daysIn
  split <;> split <;> decide

theorem date_fits (d : Date) : Fits dateLayout d.fields := by
  have month : d.month < 10 ^ 2 := d.month_le.trans_lt (by decide)
  have day : d.day < 10 ^ 2 := (d.day_le.trans (daysIn_le ..)).trans_lt (by decide)
  exact .cons ⟨by decide, month⟩ (.cons ⟨by decide, day⟩ .nil)

/-- A leap second has room too. -/
theorem time_fits (mark : String) (t : Time) : Fits (timeLayout mark) t.fields := by
  have hour : t.hour < 10 ^ 2 := t.hour_lt.trans (by decide)
  have minute : t.minute < 10 ^ 2 := t.minute_lt.trans (by decide)
  have second : t.second + t.nanos / 1000000000 < 10 ^ 2 := by
    have last := t.second_lt
    have leap := t.nanos_lt
    omega
  have milli : t.nanos % 1000000000 / 1000000 < 10 ^ 3 := by omega
  exact .cons ⟨Nat.two_pos, hour⟩ (.cons ⟨by decide, minute⟩ (.cons ⟨by decide, second⟩
    (.cons ⟨by decide, milli⟩ .nil)))

theorem toList_dateText (d : Date) :
    d.text.toList = (yearText d.year).toList ++ laidOut dateLayout d.fields := by
  simp [Date.text, dateLayout, Date.fields, laidOut]

theorem toList_timeText (mark : String) (t : Time) :
    mark.toList ++ t.text.toList = laidOut (timeLayout mark) t.fields := by
  simp [Time.text, timeLayout, Time.fields, laidOut]

theorem toList_bareTime (t : Time) : t.text.toList = laidOut (timeLayout "") t.fields := by
  rw [← toList_timeText, String.toList_empty, List.nil_append]

/-! ## The order of the numbers -/

/-- A date whose year has four digits. -/
def Date.IsPlain (d : Date) : Prop :=
  0 ≤ d.year ∧ d.year ≤ 9999

/-- A time outside of leap seconds. -/
def Time.IsPlain (t : Time) : Prop :=
  t.nanos < 1000000000

/-- The numbers of a date. -/
def Date.row (d : Date) : List Nat :=
  d.year.toNat :: d.fields

variable {d e : Date} {t u : Time}

theorem date_of_fields (year : d.year = e.year) (fields : d.fields = e.fields) : d = e := by
  cases d
  cases e
  simp only [Date.fields, List.cons.injEq, and_true] at year fields
  obtain ⟨month, day⟩ := fields
  subst year month day
  rfl

theorem toList_plainDate (plain : d.IsPlain) :
    d.text.toList = laidOut (("", 4) :: dateLayout) d.row := by
  rw [toList_dateText, yearText_of_four_digits plain.1 plain.2]
  simp [laidOut, Date.row]

theorem plainDate_fits (plain : d.IsPlain) : Fits (("", 4) :: dateLayout) d.row := by
  have year : d.year.toNat < 10 ^ 4 := by
    have small := plain.2
    omega
  exact .cons ⟨by decide, year⟩ (date_fits d)

/-- The numbers of dates are in the order of their days. -/
theorem date_row_lt_iff (left : d.IsPlain) (right : e.IsPlain) :
    d.row < e.row ↔ d.dayNumber < e.dayNumber := by
  obtain ⟨first, -⟩ := left
  obtain ⟨second, -⟩ := right
  have last : d.row < e.row ↔ d.year.toNat < e.year.toNat ∨ d.year.toNat = e.year.toNat ∧
      (d.month < e.month ∨ d.month = e.month ∧ d.day < e.day) := by
    simp [Date.row, Date.fields, List.cons_lt_cons_iff]
  rw [last, dayNumber_lt_iff, Date.Before]
  omega

/-- The numbers of a date tell the day. -/
theorem date_row_eq_iff (left : d.IsPlain) (right : e.IsPlain) :
    d.row = e.row ↔ d.dayNumber = e.dayNumber := by
  constructor
  · intro same
    have notBefore : ¬ d.dayNumber < e.dayNumber := by
      rw [← date_row_lt_iff left right, same]
      exact List.lt_irrefl _
    have notAfter : ¬ e.dayNumber < d.dayNumber := by
      rw [← date_row_lt_iff right left, same]
      exact List.lt_irrefl _
    omega
  · intro same
    rw [dayNumber_inj.mp same]

/-- The milliseconds of a day before a time, the finer part cut off. -/
def Time.milliOfDay (t : Time) : Nat :=
  t.nanosecondOfDay / 1000000

theorem milliOfDay_eq (t : Time) : t.milliOfDay = t.secondOfDay * 1000 + t.nanos / 1000000 := by
  unfold Time.milliOfDay Time.nanosecondOfDay
  omega

theorem milliOfDay_lt (plain : t.IsPlain) : t.milliOfDay < 86400000 := by
  have second := secondOfDay_lt t
  unfold Time.IsPlain at plain
  rw [milliOfDay_eq]
  omega

theorem fields_of_plain (plain : t.IsPlain) :
    t.fields = [t.hour, t.minute, t.second, t.nanos / 1000000] := by
  rw [Time.fields, Nat.div_eq_of_lt plain, Nat.mod_eq_of_lt plain, Nat.add_zero]

/-- The numbers of times are in the order of their milliseconds. -/
theorem time_fields_lt_iff (left : t.IsPlain) (right : u.IsPlain) :
    t.fields < u.fields ↔ t.milliOfDay < u.milliOfDay := by
  have order : t.fields < u.fields ↔ t.hour < u.hour ∨ t.hour = u.hour ∧
      (t.minute < u.minute ∨ t.minute = u.minute ∧
        (t.second < u.second ∨ t.second = u.second ∧ t.nanos / 1000000 < u.nanos / 1000000)) := by
    simp [fields_of_plain left, fields_of_plain right, List.cons_lt_cons_iff]
  have minutes := And.intro t.minute_lt u.minute_lt
  have seconds := And.intro t.second_lt u.second_lt
  have millis : t.nanos / 1000000 < 1000 ∧ u.nanos / 1000000 < 1000 := by
    unfold Time.IsPlain at left right
    omega
  rw [order, milliOfDay_eq, milliOfDay_eq, Time.secondOfDay, Time.secondOfDay]
  omega

/-- A date with a year of four digits, and a time outside of leap seconds. -/
structure DateTime.IsPlain (d : DateTime) : Prop where
  date : d.date.IsPlain
  time : d.time.IsPlain

/-- The numbers of a date and a time. -/
def DateTime.row (d : DateTime) : List Nat :=
  d.date.row ++ d.time.fields

variable {x y : DateTime}

/-- A date and a time are laid out in one row. -/
theorem toList_plainDateTime (plain : x.IsPlain) (mark : String) :
    (x.date.text ++ mark ++ x.time.text).toList =
      laidOut (("", 4) :: dateLayout ++ timeLayout mark) x.row := by
  rw [DateTime.row, laidOut_append (plainDate_fits plain.date), ← toList_plainDate plain.date,
    ← toList_timeText, String.toList_append, String.toList_append, List.append_assoc]

theorem plainDateTime_fits (plain : x.IsPlain) (mark : String) :
    Fits (("", 4) :: dateLayout ++ timeLayout mark) x.row :=
  List.rel_append (plainDate_fits plain.date) (time_fits mark x.time)

theorem milliseconds_eq (x : DateTime) :
    x.nanoseconds / 1000000 = x.date.dayNumber * 86400000 + x.time.milliOfDay := by
  rw [milliOfDay_eq, DateTime.nanoseconds, DateTime.seconds]
  omega

/-- No time reaches the next day, so the date is compared first. -/
theorem dateTime_row_lt_iff (left : x.IsPlain) (right : y.IsPlain) :
    x.row < y.row ↔ x.nanoseconds / 1000000 < y.nanoseconds / 1000000 := by
  have same : x.date.row.length = y.date.row.length := rfl
  have first := milliOfDay_lt left.time
  have second := milliOfDay_lt right.time
  rw [DateTime.row, DateTime.row, append_lt_append_iff same, date_row_lt_iff left.date right.date,
    date_row_eq_iff left.date right.date, time_fields_lt_iff left.time right.time, milliseconds_eq,
    milliseconds_eq]
  omega

/-! ## Instants -/

/-- The minute, and the second with its milliseconds, are all that the numbers say. -/
theorem sameMillisecond_iff_fields :
    x.moment.SameMillisecond y.moment ↔ x.date = y.date ∧ x.time.fields = y.time.fields := by
  have hours := And.intro x.time.hour_lt y.time.hour_lt
  have minutes := And.intro x.time.minute_lt y.time.minute_lt
  have seconds := And.intro x.time.second_lt y.time.second_lt
  have leaps := And.intro x.time.nanos_lt y.time.nanos_lt
  -- every number is below its unit, so a sum of them is the same only when they all are
  simp only [DateTime.moment, Moment.ofSeconds, Moment.SameMillisecond, DateTime.seconds,
    Time.secondOfDay, Time.fields, List.cons.injEq, and_true, ← dayNumber_inj]
  omega

theorem toList_instantText (i : Instant) : i.text.toList = (yearText i.utc.date.year).toList ++
    laidOut (dateLayout ++ timeLayout "T") (i.utc.date.fields ++ i.utc.time.fields) ++ ['Z'] := by
  rw [laidOut_append (date_fits _), ← toList_timeText, Instant.text]
  simp [toList_dateText]

/-- Instants have one text exactly when they are one moment, but for what is finer than a millisecond. -/
theorem instantText_eq_iff {i j : Instant} :
    i.text = j.text ↔ i.utc.moment.SameMillisecond j.utc.moment := by
  have first := List.rel_append (date_fits i.utc.date) (time_fits "T" i.utc.time)
  have second := List.rel_append (date_fits j.utc.date) (time_fits "T" j.utc.time)
  rw [sameMillisecond_iff_fields]
  constructor
  · intro same
    have texts := congrArg String.toList same
    rw [toList_instantText, toList_instantText] at texts
    obtain ⟨year, numbers⟩ :=
      List.append_inj' (List.append_cancel_right texts) (laidOut_length first second)
    obtain ⟨date, time⟩ := List.append_inj (laidOut_inj first second numbers) rfl
    exact ⟨date_of_fields (yearText_inj year) date, time⟩
  · rintro ⟨date, time⟩
    rw [← String.toList_inj, toList_instantText, toList_instantText, date, time]

end ColumnQuery.Calendar
