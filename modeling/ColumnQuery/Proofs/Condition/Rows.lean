import ColumnQuery.Proofs.Condition.ReadBack

/-! Which rows the predicate on a column selects. A row decides of each value whether a column is equal
to it and whether it matches a pattern; IN is an OR of equalities, and NOT turns truth values around.
Nothing is known about equality with an absent value, so under `=` such a value is never what selects a
row, and under `!=` it keeps every row from being selected. -/
namespace ColumnQuery
open Sql

/-! ## Truth values -/

namespace Truth

/-- The value itself, or its negation. -/
def signed (negated : Bool) (value : Truth) : Truth :=
  if negated then value.not else value

section Several

variable {values : List Truth}

theorem not_holds_iff {value : Truth} : value.not = .holds ↔ value = .fails := by
  cases value <;> decide

theorem or_holds_iff {first second : Truth} :
    first.or second = .holds ↔ first = .holds ∨ second = .holds := by
  cases first <;> cases second <;> decide

theorem or_fails_iff {first second : Truth} :
    first.or second = .fails ↔ first = .fails ∧ second = .fails := by
  cases first <;> cases second <;> decide

theorem not_or (first second : Truth) : (first.or second).not = first.not.and second.not := by
  cases first <;> cases second <;> rfl

/-- A disjunction holds exactly when one of its parts does. -/
theorem any_holds_iff : any values = .holds ↔ .holds ∈ values := by
  induction values with
  | nil => simp [any]
  | cons value rest ih =>
    change value.or (any rest) = .holds ↔ _
    rw [or_holds_iff, ih, List.mem_cons, eq_comm]

/-- A disjunction fails exactly when all of its parts do. -/
theorem any_fails_iff : any values = .fails ↔ ∀ value ∈ values, value = .fails := by
  induction values with
  | nil => simp [any]
  | cons value rest ih =>
    change value.or (any rest) = .fails ↔ _
    rw [or_fails_iff, ih, List.forall_mem_cons]

/-- That none of several holds is that all of their negations hold, with the unknown ones left so. -/
theorem not_any (values : List Truth) : (any values).not = all (values.map not) := by
  induction values with
  | nil => rfl
  | cons value rest ih =>
    change (value.or (any rest)).not = value.not.and (all (rest.map not))
    rw [not_or, ih]

end Several

end Truth

theorem Condition.truths_eq (value : Atom → Truth) (parts : List Condition) :
    truths value parts = parts.map (truth value) := by
  induction parts with
  | nil => rfl
  | cons part rest ih => rw [truths, ih, List.map_cons]

/-! ## Rows -/

/-- What a row decides: whether a column, or a function of it, is equal to a value, and whether it is
LIKE a pattern. What an absent value is equal to is unknown. Nothing else is assumed of the answers. -/
structure Row where
  equal : Subject → Literal → Truth
  like : Subject → Literal → Truth
  others : Atom → Truth
  equal_null : ∀ subject, equal subject .null = .unknown

/-- The truth values of predicates in a row. -/
def Row.truth (row : Row) : Atom → Truth
  | .compare subject .equal value => row.equal subject value
  | .compare subject .notEqual value => (row.equal subject value).not
  | .member subject negated values => (Truth.any (values.map (row.equal subject))).signed negated
  | .like subject negated pattern => (row.like subject pattern).signed negated
  | predicate => row.others predicate

/-- A row is selected where the condition is true of it, not where it is unknown. -/
def Condition.Selects (condition : Condition) (row : Row) : Prop :=
  condition.truth row.truth = .holds

/-- How a column of a row agrees with one value: whether it is equal to it, or matches its pattern. -/
def Row.agrees (row : Row) (column : String) (operator : Operator) (caseSensitive : Bool)
    (value : Literal) : Truth :=
  if operator.isPattern then
    row.like (if caseSensitive then .column column else .applied "lower" column)
      (.text (operator.likePattern (value.searched caseSensitive)))
  else row.equal (.column column) value

/-- The values that are compared with: absent ones have no pattern. -/
def Operator.compared (operator : Operator) (values : List Literal) : List Literal :=
  if operator.isPattern then values.filter (!·.isNull) else values

/-! ## Predicates on a column -/

namespace Predicate
open Condition

variable {column : String} {operator : Operator} {values : List Literal} {caseSensitive : Bool}

/-- The condition that a predicate on a column stands for. -/
def condition (column : String) (operator : Operator) (values : List Literal) (caseSensitive : Bool) :
    Condition :=
  if operator.isPattern then
    let matched := (values.filter (!·.isNull)).map fun value =>
      Condition.atom (.matching column operator caseSensitive value)
    if operator.isNegated then .ofConjuncts matched else .ofDisjuncts matched
  else .atom (.membership column operator.isNegated values)

section Combined

variable {phrases : List Phrase} {parts : List Condition}

/-- Conditions combined by AND stand alone, as one condition or between parentheses. -/
theorem combined_all_stands_alone (alone : List.Forall₂ StandsAlone phrases parts)
    (nonempty : parts ≠ []) : StandsAlone (combined .and phrases) (ofConjuncts parts) := by
  cases alone with
  | nil => exact absurd rfl nonempty
  | cons head tail =>
    cases tail with
    | nil => exact head
    | cons next others => exact stands_alone_all (.cons head (.cons next others)) nonempty

theorem combined_any_stands_alone (alone : List.Forall₂ StandsAlone phrases parts)
    (nonempty : parts ≠ []) : StandsAlone (combined .or phrases) (ofDisjuncts parts) := by
  cases alone with
  | nil => exact absurd rfl nonempty
  | cons head tail =>
    cases tail with
    | nil => exact head
    | cons next others => exact stands_alone_any (.cons head (.cons next others)) nonempty

end Combined

/-- The matches of the values that are present are one condition. -/
theorem patterns_stand_alone (pattern : operator.isPattern = true)
    (present : values.filter (!·.isNull) ≠ []) :
    StandsAlone (patterns column operator caseSensitive values)
      (condition column operator values caseSensitive) := by
  have alone : List.Forall₂ StandsAlone
      ((values.filter (!·.isNull)).map (patternMatch column operator caseSensitive))
      ((values.filter (!·.isNull)).map fun value =>
        Condition.atom (.matching column operator caseSensitive value)) := by
    rw [List.forall₂_map_left_iff, List.forall₂_map_right_iff, List.forall₂_same]
    exact fun value _ => stands_alone_match column operator caseSensitive value
  have nonempty : ((values.filter (!·.isNull)).map fun value =>
      Condition.atom (.matching column operator caseSensitive value)) ≠ [] :=
    mt List.map_eq_nil_iff.mp present
  rw [patterns, condition, if_pos pattern]
  cases operator.isNegated with
  | false => exact combined_any_stands_alone alone nonempty
  | true => exact combined_all_stands_alone alone nonempty

/-- Where there is a value to compare with, the predicate is written, and it stands alone. -/
theorem onField_stands_alone (column : String) (operator : Operator) (caseSensitive : Bool)
    (present : ∃ value ∈ values, value.isNull = false) : ∃ phrase,
      onField column operator values caseSensitive = .ok phrase ∧
        StandsAlone phrase (condition column operator values caseSensitive) := by
  have some_value : values.all Literal.isNull = false := by simpa using present
  have filtered : values.filter (!·.isNull) ≠ [] := by
    obtain ⟨value, member, own⟩ := present
    exact List.ne_nil_of_mem (List.mem_filter.mpr ⟨member, by rw [own]; rfl⟩)
  have nonempty : values ≠ [] := fun empty => filtered (by rw [empty]; rfl)
  rw [onField, some_value, if_neg Bool.false_ne_true]
  cases pattern : operator.isPattern with
  | true => exact ⟨_, rfl, patterns_stand_alone pattern filtered⟩
  | false =>
    refine ⟨_, rfl, ?_⟩
    rw [condition, if_neg (by rw [pattern]; exact Bool.false_ne_true)]
    exact stands_alone_equality column operator.isNegated nonempty

/-! ## Rows of a predicate -/

/-- A column is in a list as far as it is equal to one of the values, also where one value stands alone.
-/
theorem membership_truth (row : Row) (column : String) (negated : Bool) (values : List Literal) :
    row.truth (.membership column negated values) =
      (Truth.any (values.map (row.equal (.column column)))).signed negated := by
  match values with
  | [] => rfl
  | [value] =>
    rw [List.map_cons, List.map_nil, Truth.any_singleton]
    cases negated <;> rfl
  | first :: second :: others => rfl

/-- Whatever the operator, the predicate is true as far as the column agrees with any of the values
compared with, and with the opposite truth value when it is negated. -/
theorem condition_truth (row : Row) (column : String) (operator : Operator) (values : List Literal)
    (caseSensitive : Bool) : (condition column operator values caseSensitive).truth row.truth =
      (Truth.any ((operator.compared values).map
        (row.agrees column operator caseSensitive))).signed operator.isNegated := by
  cases pattern : operator.isPattern with
  | false =>
    have agrees : row.agrees column operator caseSensitive = row.equal (.column column) := by
      funext value
      rw [Row.agrees, pattern, if_neg Bool.false_ne_true]
    rw [condition, Operator.compared, pattern, if_neg Bool.false_ne_true, if_neg Bool.false_ne_true,
      agrees]
    exact membership_truth row column _ values
  | true =>
    have each (value : Literal) : (Condition.atom (.matching column operator caseSensitive value)).truth
        row.truth = (row.agrees column operator caseSensitive value).signed operator.isNegated := by
      rw [Row.agrees, if_pos pattern]
      rfl
    have truths : Condition.truths row.truth ((values.filter (!·.isNull)).map fun value =>
          Condition.atom (.matching column operator caseSensitive value)) =
        ((values.filter (!·.isNull)).map (row.agrees column operator caseSensitive)).map
          (Truth.signed operator.isNegated) := by
      rw [Condition.truths_eq, List.map_map, List.map_map]
      exact List.map_congr_left fun value _ => each value
    rw [condition, Operator.compared, if_pos pattern, if_pos pattern]
    cases negated : operator.isNegated with
    | false =>
      rw [if_neg Bool.false_ne_true, Condition.truth_ofDisjuncts, truths, negated]
      exact congrArg Truth.any (List.map_id _)
    | true =>
      rw [if_pos rfl, Condition.truth_ofConjuncts, truths, negated]
      exact (Truth.not_any _).symm

/-! ## Absent values -/

theorem mem_cleaned {value : Literal} :
    value ∈ values.filter (!·.isNull) ↔ value ∈ values ∧ value ≠ .null := by
  rw [List.mem_filter, Bool.not_eq_true', ← Bool.not_eq_true, Literal.isNull_iff]

theorem cleaned_of_no_null (none : .null ∉ values) : values.filter (!·.isNull) = values := by
  rw [List.filter_eq_self]
  intro value member
  rw [Bool.not_eq_true', ← Bool.not_eq_true, Literal.isNull_iff]
  exact fun absent => none (absent ▸ member)

/-- No row is selected because a column agrees with an absent value. -/
theorem any_cleaned_holds {agrees : Literal → Truth} (unknown : agrees .null = .unknown) :
    Truth.any (values.map agrees) = .holds ↔
      Truth.any ((values.filter (!·.isNull)).map agrees) = .holds := by
  rw [Truth.any_holds_iff, Truth.any_holds_iff, List.mem_map, List.mem_map]
  constructor
  · rintro ⟨value, member, agreed⟩
    have own : value ≠ .null := by
      rintro rfl
      rw [unknown] at agreed
      cases agreed
    exact ⟨value, mem_cleaned.mpr ⟨member, own⟩, agreed⟩
  · rintro ⟨value, member, agreed⟩
    exact ⟨value, (mem_cleaned.mp member).1, agreed⟩

/-- Unless absent values stand under `!=`, the rows are those selected without them. -/
theorem selects_without_nulls (harmless : ¬ (operator = .notEqual ∧ .null ∈ values)) (row : Row) :
    (condition column operator values caseSensitive).Selects row ↔
      (condition column operator (values.filter (!·.isNull)) caseSensitive).Selects row := by
  rw [Condition.Selects, Condition.Selects, condition_truth, condition_truth]
  cases pattern : operator.isPattern with
  | true =>
    rw [Operator.compared, Operator.compared, if_pos pattern, if_pos pattern, List.filter_filter]
    simp only [Bool.and_self]
  | false =>
    rw [Operator.compared, Operator.compared, pattern, if_neg Bool.false_ne_true,
      if_neg Bool.false_ne_true]
    cases negated : operator.isNegated with
    | true =>
      have unequal : operator = .notEqual := by cases operator <;> first | rfl | contradiction
      rw [cleaned_of_no_null fun member => harmless ⟨unequal, member⟩]
    | false =>
      refine any_cleaned_holds ?_
      rw [Row.agrees, pattern, if_neg Bool.false_ne_true]
      exact row.equal_null _

/-- An absent value under `!=` leaves it unknown of each row whether the column differs from it, or the
column is equal to another value: in neither case is the row selected. -/
theorem null_selects_nothing (member : .null ∈ values) (row : Row) :
    ¬ (condition column .notEqual values caseSensitive).Selects row := by
  have agrees : row.agrees column .notEqual caseSensitive .null = .unknown := row.equal_null _
  rw [Condition.Selects, condition_truth]
  intro selected
  have fails := Truth.any_fails_iff.mp (Truth.not_holds_iff.mp selected)
  have failed := fails _ (List.mem_map_of_mem member)
  rw [agrees] at failed
  cases failed

/-- A row in which a column differs from every value, as far as that can be said. -/
def otherRow : Row where
  equal _ value := if value = .null then .unknown else .fails
  like _ _ := .fails
  others _ := .fails
  equal_null _ := if_pos rfl

theorem otherRow_selected : (condition column .notEqual (values.filter (!·.isNull))
    caseSensitive).Selects otherRow := by
  rw [Condition.Selects, condition_truth]
  refine Truth.not_holds_iff.mpr (Truth.any_fails_iff.mpr ?_)
  rintro _ member
  obtain ⟨value, kept, rfl⟩ := List.mem_map.mp member
  exact if_neg (mem_cleaned.mp kept).2

/-- Where there is a value to compare with, the predicate is written with and without the absent values,
and both read as conditions. They select the same rows under every operator but `!=`, and under `!=` when
no value is absent. An absent value under `!=` keeps every row from being selected, while without it there
are rows that are. -/
theorem absent_values_select_alike {column : String} {operator : Operator} {values : List Literal}
    {caseSensitive : Bool} (present : ∃ value ∈ values, value.isNull = false) :
    ∃ phrase cleaned written without,
      onField column operator values caseSensitive = .ok phrase ∧
        onField column operator (values.filter (!·.isNull)) caseSensitive = .ok cleaned ∧
        Condition.read phrase = some written ∧ Condition.read cleaned = some without ∧
        ((∀ row, written.Selects row ↔ without.Selects row) ↔
          ¬ (operator = .notEqual ∧ .null ∈ values)) ∧
        (operator = .notEqual → .null ∈ values → ∀ row, ¬ written.Selects row) := by
  have kept : ∃ value ∈ values.filter (!·.isNull), value.isNull = false := by
    obtain ⟨value, member, own⟩ := present
    exact ⟨value, List.mem_filter.mpr ⟨member, by rw [own]; rfl⟩, own⟩
  obtain ⟨phrase, made, alone⟩ := onField_stands_alone column operator caseSensitive present
  obtain ⟨cleaned, madeCleaned, aloneCleaned⟩ :=
    onField_stands_alone column operator caseSensitive kept
  refine ⟨phrase, cleaned, _, _, made, madeCleaned, Filter.read_of_stands_alone alone,
    Filter.read_of_stands_alone aloneCleaned, ⟨?_, selects_without_nulls⟩, ?_⟩
  · rintro alike ⟨rfl, member⟩
    exact null_selects_nothing member otherRow ((alike otherRow).mpr otherRow_selected)
  · rintro rfl member row
    exact null_selects_nothing member row

/-- Two patterns, with an absent value between them. -/
theorem absent_pattern_selects_alike :
    let values : List Literal := [.text "a", .null, .text "b"]
    (∃ value ∈ values, value.isNull = false) ∧
      ∃ phrase cleaned written without,
        onField "name" .doesNotContain values false = .ok phrase ∧
          onField "name" .doesNotContain [.text "a", .text "b"] false = .ok cleaned ∧
          Condition.read phrase = some written ∧ Condition.read cleaned = some without ∧
          ∀ row, written.Selects row ↔ without.Selects row := by
  intro values
  have present : ∃ value ∈ values, value.isNull = false := ⟨.text "a", .head _, rfl⟩
  obtain ⟨phrase, cleaned, written, without, made, madeCleaned, read, readCleaned, alike, -⟩ :=
    @absent_values_select_alike "name" .doesNotContain values false present
  exact ⟨present, phrase, cleaned, written, without, made, madeCleaned, read, readCleaned,
    alike.mpr (by decide)⟩

/-- A row in which `x` is 7. -/
def sevenRow : Row where
  equal _ value :=
    if value = .null then .unknown else if value = .integer 7 then .holds else .fails
  like _ _ := .fails
  others _ := .fails
  equal_null _ := rfl

/-- The row in which `x` is 7 is selected by `"x" != 5`, and not by `"x" NOT IN (5, NULL)`. -/
theorem absent_value_hides_row : ∃ phrase cleaned written without,
    onField "x" .notEqual [.integer 5, .null] true = .ok phrase ∧
      onField "x" .notEqual ([.integer 5, .null].filter (!·.isNull)) true = .ok cleaned ∧
      Phrase.text phrase = "\"x\" NOT IN (5, NULL)" ∧ Phrase.text cleaned = "\"x\" != 5" ∧
      Condition.read phrase = some written ∧ Condition.read cleaned = some without ∧
      without.Selects sevenRow ∧ ¬ written.Selects sevenRow := by
  have present : ∃ value ∈ [Literal.integer 5, .null], value.isNull = false :=
    ⟨.integer 5, .head _, rfl⟩
  have kept : ∃ value ∈ [Literal.integer 5], value.isNull = false := ⟨.integer 5, .head _, rfl⟩
  obtain ⟨phrase, made, alone⟩ := onField_stands_alone "x" .notEqual true present
  obtain ⟨cleaned, madeCleaned, aloneCleaned⟩ := onField_stands_alone "x" .notEqual true kept
  have text : Phrase.text phrase = "\"x\" NOT IN (5, NULL)" := by
    cases made
    decide
  have textCleaned : Phrase.text cleaned = "\"x\" != 5" := by
    cases madeCleaned
    decide
  refine ⟨phrase, cleaned, _, _, made, madeCleaned, text, textCleaned,
    Filter.read_of_stands_alone alone, Filter.read_of_stands_alone aloneCleaned, rfl, ?_⟩
  exact null_selects_nothing (.tail _ (.head _)) sevenRow

end Predicate

end ColumnQuery
