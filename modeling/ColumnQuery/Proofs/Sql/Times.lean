import ColumnQuery.Proofs.Calendar.Texts
import ColumnQuery.Sql.Literal

/-! Dates and times as literals. What a literal says is compared as text, by whoever reads it, so the texts
of one kind have to be in the order of the times. They are, as far as milliseconds tell times apart and
years have four digits. An instant is written in universal time, whatever clocks showed it, so one
moment has one text. -/
namespace ColumnQuery.Sql
open Calendar Text

namespace Temporal

/-- What a value says of a time. -/
inductive Kind
  | date
  | time
  | dateTime
  | instant
deriving DecidableEq

/-- What this value says of a time. -/
def kind : Temporal → Kind
  | .date _ => .date
  | .time _ => .time
  | .dateTime _ => .dateTime
  | .instant _ => .instant

/-- The nanoseconds before it: those of the day for a time, and else those since the year zero began. A
date is the beginning of its day, and an instant is in universal time. -/
def nanoseconds : Temporal → Int
  | .date value => value.dayNumber * 86400000000000
  | .time value => value.nanosecondOfDay
  | .dateTime value => value.nanoseconds
  | .instant value => value.utc.nanoseconds

/-- The milliseconds before it, the finer part cut off. -/
def millis (t : Temporal) : Int :=
  t.nanoseconds / 1000000

/-- No leap second, and a year of four digits. -/
def IsPlain : Temporal → Prop
  | .date value => value.IsPlain
  | .time value => value.IsPlain
  | .dateTime value => value.IsPlain
  | .instant value => value.utc.IsPlain

/-! ## Numbers -/

/-- How values of a kind are laid out. -/
def Kind.layout : Kind → List (String × Nat)
  | .date => ("", 4) :: dateLayout
  | .time => timeLayout ""
  | .dateTime => ("", 4) :: dateLayout ++ timeLayout " "
  | .instant => ("", 4) :: dateLayout ++ timeLayout "T"

/-- What stands behind the numbers. -/
def Kind.ending : Kind → List Char
  | .instant => ['Z']
  | _ => []

/-- The numbers of a value. -/
def row : Temporal → List Nat
  | .date value => value.row
  | .time value => value.fields
  | .dateTime value => value.row
  | .instant value => value.utc.row

variable {first second : Temporal}

theorem row_fits (plain : first.IsPlain) : Fits first.kind.layout first.row := by
  cases first with
  | date value => exact plainDate_fits plain
  | time value => exact time_fits "" value
  | dateTime value => exact plainDateTime_fits plain " "
  | instant value => exact plainDateTime_fits plain "T"

/-- The text of a time is its row of numbers, each in its width, and what its kind ends with. -/
theorem toList_text (plain : first.IsPlain) :
    first.text.toList = laidOut first.kind.layout first.row ++ first.kind.ending := by
  cases first with
  | date value =>
    rw [text, toList_plainDate plain]
    exact (List.append_nil _).symm
  | time value =>
    rw [text, toList_bareTime]
    exact (List.append_nil _).symm
  | dateTime value =>
    rw [text, DateTime.text, toList_plainDateTime plain " "]
    exact (List.append_nil _).symm
  | instant value =>
    rw [text, Instant.text, String.toList_append, toList_plainDateTime plain "T"]
    rfl

/-- Rows of numbers are in the order of the times that they show. -/
theorem row_lt_iff (same : first.kind = second.kind) (left : first.IsPlain) (right : second.IsPlain) :
    first.row < second.row ↔ first.millis < second.millis := by
  cases first with
  | date value =>
    cases second with
    | date other =>
      refine (date_row_lt_iff left right).trans ?_
      simp only [millis, nanoseconds]
      omega
    | _ => cases same
  | time value =>
    cases second with
    | time other =>
      refine (time_fields_lt_iff left right).trans ?_
      simp only [millis, nanoseconds, Time.milliOfDay]
      omega
    | _ => cases same
  | dateTime value =>
    cases second with
    | dateTime other => exact dateTime_row_lt_iff left right
    | _ => cases same
  | instant value =>
    cases second with
    | instant other => exact dateTime_row_lt_iff left right
    | _ => cases same

/-! ## Literals -/

theorem doubled_of_not_mem {quote : Char} {cs : List Char} (none : quote ∉ cs) :
    doubled quote cs = cs := by
  induction cs with
  | nil => rfl
  | cons c rest ih =>
    obtain ⟨other, none⟩ := List.ne_and_not_mem_of_not_mem_cons none
    rw [doubled, if_neg other.symm, ih none]

theorem no_quote_in_date (d : Date) : '\'' ∉ d.text.toList := by
  rw [toList_dateText, List.mem_append]
  rintro (year | numbers)
  · exact not_mem_yearText rfl (by decide) (by decide) _ year
  · exact not_mem_laidOut rfl (by simp [dateLayout]) _ numbers

theorem no_quote_in_time (t : Time) : '\'' ∉ t.text.toList := by
  rw [toList_bareTime]
  exact not_mem_laidOut rfl (by simp [timeLayout]) _

theorem no_quote (t : Temporal) : '\'' ∉ t.text.toList := by
  cases t with
  | date value => exact no_quote_in_date value
  | time value => exact no_quote_in_time value
  | dateTime value =>
    simp [text, DateTime.text, no_quote_in_date value.date, no_quote_in_time value.time]
  | instant value =>
    simp [text, Instant.text, no_quote_in_date value.utc.date, no_quote_in_time value.utc.time]

/-- Nothing is doubled between the quotes. -/
theorem toList_sql (t : Temporal) :
    (Literal.temporal t).sql.toList = '\'' :: (t.text.toList ++ ['\'']) := by
  rw [Literal.sql, stringText, quoted, String.toList_ofList, doubled_of_not_mem (no_quote t)]

theorem sql_eq_iff :
    (Literal.temporal first).sql = (Literal.temporal second).sql ↔ first.text = second.text := by
  rw [← String.toList_inj, toList_sql, toList_sql, List.cons_inj_right, List.append_left_inj,
    String.toList_inj]

/-- Literals of one kind are in the order of their times. -/
theorem sql_lt_iff (same : first.kind = second.kind) (left : first.IsPlain) (right : second.IsPlain) :
    (Literal.temporal first).sql < (Literal.temporal second).sql ↔ first.millis < second.millis := by
  have room := row_fits right
  have numbers := toList_text right
  rw [← same] at room numbers
  have rows := laidOut_length (row_fits left) room
  have texts : first.text.toList.length = second.text.toList.length := by
    rw [toList_text left, numbers, List.length_append, List.length_append, rows]
  rw [String.lt_iff_toList_lt, toList_sql, toList_sql, List.cons_lt_cons_iff,
    append_lt_append_iff texts, toList_text left, numbers, append_lt_append_iff rows,
    laidOut_lt_iff (row_fits left) room, row_lt_iff same left right]
  simp

end Temporal

/-- The literal for what clocks at an offset show. It is the instant in universal time. -/
def Literal.ofLocal (shown : DateTime) (offset : Offset) : Literal :=
  .temporal (.instant (.ofLocal shown offset))

/-- Two times with offsets are written alike when they are in the same millisecond of UTC. -/
theorem ofLocal_eq_iff {shown other : DateTime} {offset away : Offset} :
    (Literal.ofLocal shown offset).sql = (Literal.ofLocal other away).sql ↔
      (Moment.ofLocal shown offset).SameMillisecond (.ofLocal other away) := by
  rw [Literal.ofLocal, Literal.ofLocal, Temporal.sql_eq_iff, ← moment_ofLocal, ← moment_ofLocal]
  exact instantText_eq_iff

/-- Of two values of one kind, the one with the smaller text is the one that is earlier by milliseconds.
What clocks show at any two offsets has one text exactly when it is one moment of universal time up to
milliseconds, in any year and with leap seconds. Outside of these, moments are numbers of nanoseconds. -/
theorem literals_sort_as_times :
    (∀ first second : Temporal, first.kind = second.kind → first.IsPlain → second.IsPlain →
      ((Literal.temporal first).sql < (Literal.temporal second).sql ↔
        first.millis < second.millis)) ∧
    ∀ (shown other : DateTime) (offset away : Offset),
      ((Literal.ofLocal shown offset).sql = (Literal.ofLocal other away).sql ↔
        (Moment.ofLocal shown offset).SameMillisecond (.ofLocal other away)) ∧
      (shown.time.IsPlain → other.time.IsPlain →
        ((Literal.ofLocal shown offset).sql = (Literal.ofLocal other away).sql ↔
          (shown.nanoseconds - offset.east * 1000000000) / 1000000 =
            (other.nanoseconds - away.east * 1000000000) / 1000000)) := by
  refine ⟨fun _ _ same left right => Temporal.sql_lt_iff same left right, ?_⟩
  intro shown other offset away
  refine ⟨ofLocal_eq_iff, ?_⟩
  intro left right
  rw [ofLocal_eq_iff, ← moment_ofLocal, ← moment_ofLocal, ← nanoseconds_ofLocal,
    ← nanoseconds_ofLocal]
  exact sameMillisecond_iff left right

/-- A day that only leap years have. -/
def leapDay : Date :=
  ⟨2020, 2, 29, by decide, by decide, by decide, by decide⟩

/-- The last moment of it, on clocks an hour east of universal time. -/
def leapDayEast : DateTime :=
  ⟨leapDay.next, ⟨0, 59, 59, 999999999, by decide, by decide, by decide, by decide⟩⟩

/-- The same millisecond on clocks five hours west. -/
def leapDayWest : DateTime :=
  ⟨leapDay, ⟨18, 59, 59, 999000000, by decide, by decide, by decide, by decide⟩⟩

/-- Midnight, a nanosecond later, in universal time. -/
def afterLeapDay : Instant :=
  ⟨leapDay.next, ⟨0, 0, 0, 0, by decide, by decide, by decide, by decide⟩⟩

/-- Midnight has passed on one of the clocks only. -/
theorem leap_day_ends :
    (Literal.ofLocal leapDayEast ⟨3600, by decide, by decide⟩).sql =
      (Literal.ofLocal leapDayWest ⟨-18000, by decide, by decide⟩).sql ∧
    (Literal.ofLocal leapDayEast ⟨3600, by decide, by decide⟩).sql <
      (Literal.temporal (.instant afterLeapDay)).sql := by
  obtain ⟨sorted, same⟩ := literals_sort_as_times
  have east : leapDayEast.time.IsPlain := Nat.lt_of_succ_le (by decide)
  have west : leapDayWest.time.IsPlain := Nat.lt_of_succ_le (by decide)
  have midnight : afterLeapDay.utc.time.IsPlain := Nat.lt_of_succ_le (by decide)
  constructor
  · apply ((same leapDayEast leapDayWest _ _).2 east west).mpr
    decide
  · apply (sorted (.instant (.ofLocal leapDayEast ⟨3600, by decide, by decide⟩))
      (.instant afterLeapDay) rfl ⟨⟨by decide, by decide⟩, east⟩
      ⟨⟨by decide, by decide⟩, midnight⟩).mpr
    decide

end ColumnQuery.Sql
