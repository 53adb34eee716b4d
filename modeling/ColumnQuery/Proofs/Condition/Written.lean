import ColumnQuery.Proofs.Outcome
import ColumnQuery.Query.Filter

/-! What can be written for a filter. Writing succeeds only along one way for each shape of filter,
and these ways are all that is needed to show that something holds of whatever is written. -/
namespace ColumnQuery
open Sql

theorem Sql.Literal.isNull_iff {value : Literal} : value.isNull = true ↔ value = .null := by
  cases value <;> simp [isNull]

/-- The name found for a column. It means nothing where none was found. -/
def FieldNames.column (names : FieldNames) (field : FieldRef) : String :=
  match names.nameOf field with
  | .ok name => name
  | .error _ => ""

theorem FieldNames.column_of_name {names : FieldNames} {field : FieldRef} {name : String}
    (found : names.nameOf field = .ok name) : names.column field = name := by
  simp only [column, found]

namespace Filter

variable {names : FieldNames} {field : FieldRef} {phrase : Phrase}

/-- What is said of a column begins with its name, which was found. -/
theorem identifier_written {said : Phrase} (made : onIdentifier names field said = .ok phrase) :
    names.nameOf field = .ok (names.column field) ∧
      phrase = [.identifier (names.column field)] ++ said := by
  unfold onIdentifier FieldNames.identifier at made
  cases found : names.nameOf field with
  | error cause => simp [found, Except.map] at made
  | ok name =>
    rw [FieldNames.column_of_name found]
    simp only [found, Except.map, Except.ok.injEq] at made
    exact ⟨rfl, made.symm⟩

/-- What is written of a column and values is their predicate under the name that was found. -/
theorem predicate_written {operator : Operator} {values : List Literal} {caseSensitive : Bool}
    (made : onValues names field operator values caseSensitive = .ok phrase) :
    names.nameOf field = .ok (names.column field) ∧
      Predicate.onField (names.column field) operator values caseSensitive = .ok phrase := by
  unfold onValues at made
  cases found : names.nameOf field with
  | error cause => simp [found] at made
  | ok name =>
    rw [FieldNames.column_of_name found]
    simp only [found] at made
    exact ⟨rfl, Outcome.ok_of_mapError made⟩

/-- A group of parts joined by a keyword, when it is written at all, has a part. -/
theorem group_written {parts : List Filter} {fault : CompileError} {joiner : Keyword}
    (made : (if parts.isEmpty then .error fault
      else (phrases names parts).map (group joiner)) = .ok phrase) :
    parts ≠ [] ∧ ∃ written, phrases names parts = .ok written ∧ group joiner written = phrase := by
  cases parts with
  | nil => cases made
  | cons part rest => exact ⟨List.cons_ne_nil _ _, Outcome.ok_of_map made⟩

/-- What has to hold of the leaves as they are written, and of a group and a negation when it holds
of their parts, for it to hold of every filter that is written. -/
structure IsClosed (names : FieldNames) (Holds : Filter → Phrase → Prop) : Prop where
  compare : ∀ comparison field value, names.nameOf field = .ok (names.column field) →
    Holds (.compare comparison field value)
      ([.identifier (names.column field)] ++ [.space, .mark comparison.mark, .space, .literal value])
  between : ∀ field low high, names.nameOf field = .ok (names.column field) →
    Holds (.between field low high)
      ([.identifier (names.column field)] ++ [.space, .keyword .between, .space, .literal low,
        .space, .keyword .and, .space, .literal high])
  member : ∀ field values negated phrase, names.nameOf field = .ok (names.column field) →
    Predicate.onField (names.column field) (if negated then .notEqual else .equal) values true =
      .ok phrase → Holds (.member field values negated) phrase
  textMatch : ∀ kind field value caseSensitive phrase,
    names.nameOf field = .ok (names.column field) →
    Predicate.onField (names.column field) kind.operator [value] caseSensitive = .ok phrase →
    Holds (.textMatch kind field value caseSensitive) phrase
  all : ∀ parts phrases, parts ≠ [] → List.Forall₂ Holds parts phrases →
    Holds (.all parts) (group .and phrases)
  any : ∀ parts phrases, parts ≠ [] → List.Forall₂ Holds parts phrases →
    Holds (.any parts) (group .or phrases)
  not : ∀ part phrase, Holds part phrase → Holds (.not part) ([.keyword .not, .space] ++ phrase)

variable {Holds : Filter → Phrase → Prop}

mutual

/-- What passes from the parts of a filter to the whole holds of everything that is written. -/
theorem holds_of_written (closed : IsClosed names Holds) (filter : Filter) {phrase : Phrase}
    (made : filter.phrase names = .ok phrase) : Holds filter phrase := by
  cases filter with
  | compare comparison field value =>
    obtain ⟨found, rfl⟩ := identifier_written made
    exact closed.compare comparison field value found
  | between field low high =>
    obtain ⟨found, rfl⟩ := identifier_written made
    exact closed.between field low high found
  | member field values negated =>
    obtain ⟨found, written⟩ := predicate_written made
    exact closed.member field values negated phrase found written
  | textMatch kind field value caseSensitive =>
    obtain ⟨found, written⟩ := predicate_written made
    exact closed.textMatch kind field value caseSensitive phrase found written
  | all parts =>
    obtain ⟨nonempty, written, each, rfl⟩ := group_written made
    exact closed.all parts written nonempty (holds_of_all_written closed parts each)
  | any parts =>
    obtain ⟨nonempty, written, each, rfl⟩ := group_written made
    exact closed.any parts written nonempty (holds_of_all_written closed parts each)
  | not part =>
    obtain ⟨inner, written, rfl⟩ := Outcome.ok_of_map made
    exact closed.not part inner (holds_of_written closed part written)

/-- Each part of a group that is written has what every way of writing keeps. -/
theorem holds_of_all_written (closed : IsClosed names Holds) (parts : List Filter)
    {written : List Phrase} (made : phrases names parts = .ok written) :
    List.Forall₂ Holds parts written := by
  cases parts with
  | nil =>
    cases made
    exact .nil
  | cons part rest =>
    rw [phrases] at made
    cases head : part.phrase names with
    | error cause => simp [head] at made
    | ok first =>
      simp only [head] at made
      obtain ⟨others, tail, rfl⟩ := Outcome.ok_of_map made
      exact .cons (holds_of_written closed part head) (holds_of_all_written closed rest tail)

end

end Filter

end ColumnQuery
