import ColumnQuery.Proofs.Asking
import ColumnQuery.Proofs.Outcome
import ColumnQuery.Query.Compile

/-! What a query was read from, and what a statement was made from. Clauses are read and written one
after the other, and here that is taken apart once: each clause of a query stands beside the member of
the body that it comes from, and each part of a statement beside the clause that it comes from. -/
namespace ColumnQuery
open Sql

/-! ## Queries -/

/-- Each clause of a query is what was read from its member of the body. -/
structure Query.IsReadFrom (body : List (String × Json)) (query : Query) : Prop where
  sourceTable : (Keyed.find? body "source-table").bind Json.int64? = some query.sourceTable
  fields : clauseOfJson (Keyed.find? body "fields") [] (fieldsOfJson "fields") = .ok query.fields
  breakout : clauseOfJson (Keyed.find? body "breakout") [] (fieldsOfJson "breakout") =
    .ok query.breakout
  aggregations : clauseOfJson (Keyed.find? body "aggregation") [] aggregationsOfJson =
    .ok query.aggregations
  filter : ∀ filter ∈ query.filter, ∃ value, Keyed.find? body "filter" = some value ∧
    Filter.ofJson value = .ok filter
  unfiltered : query.filter = none → ∀ value ∈ Keyed.find? body "filter", value = .null
  orderBy : clauseOfJson (Keyed.find? body "order-by") []
    (sortOrdersOfJson query.aggregations.length) = .ok query.orderBy
  page : ∃ limit, countOfJson "limit" (Keyed.find? body "limit") = .ok limit ∧
    pageOfJson (Keyed.find? body "page") limit = .ok (query.limit, query.page)

/-- A clause that was read is the absent one, or it was read from what is given. -/
theorem clause_read {α : Type} {value : Option Json} {absent clause : α}
    {read : Json → Except CompileError α} (made : clauseOfJson value absent read = .ok clause) :
    (value = none ∧ clause = absent) ∨ ∃ given, value = some given ∧ read given = .ok clause := by
  cases value with
  | none =>
    cases made
    exact .inl ⟨rfl, rfl⟩
  | some given => exact .inr ⟨given, rfl, made⟩

/-- A body is read clause by clause. -/
theorem body_read {database : Option Int64} {body : List (String × Json)} {query : Query}
    (made : Query.ofBody database body = .ok query) :
    query.database = database ∧ query.IsReadFrom body := by
  unfold Query.ofBody at made
  dsimp only at made
  split at made
  · next table given =>
    obtain ⟨sourceTable, found, made⟩ := Outcome.ok_of_bind made
    cases found
    obtain ⟨fields, readFields, made⟩ := Outcome.ok_of_bind made
    obtain ⟨breakout, readBreakout, made⟩ := Outcome.ok_of_bind made
    obtain ⟨aggregations, readAggregations, made⟩ := Outcome.ok_of_bind made
    obtain ⟨filter, readFilter, made⟩ := Outcome.ok_of_bind made
    obtain ⟨orderBy, readOrder, made⟩ := Outcome.ok_of_bind made
    obtain ⟨limit, readLimit, made⟩ := Outcome.ok_of_bind made
    obtain ⟨page, readPage, made⟩ := Outcome.ok_of_bind made
    cases made
    refine ⟨rfl, given, readFields, readBreakout, readAggregations, ?_, ?_, readOrder, limit,
      readLimit, readPage⟩
    · rintro _ ⟨⟩
      rcases clause_read readFilter with ⟨-, absent⟩ | ⟨value, held, read⟩
      · cases absent
      · split at read
        · cases read
        · obtain ⟨whole, made, same⟩ := Outcome.ok_of_map read
          cases same
          exact ⟨value, held, made⟩
    · rintro rfl value member
      rcases clause_read readFilter with ⟨absent, -⟩ | ⟨given, held, read⟩
      · rw [absent] at member
        cases member
      · obtain rfl : given = value := Option.some.inj (held.symm.trans member)
        split at read
        · rfl
        · obtain ⟨whole, made, same⟩ := Outcome.ok_of_map read
          cases same
  · cases made

theorem members_read {what : String} {value : Json} {members : List (String × Json)}
    (made : membersOfJson what value = .ok members) : value = .object members := by
  unfold membersOfJson at made
  split at made
  · cases made
    rfl
  · cases made

theorem found_body_read {database : Option Int64} {found : Option Json} {query : Query}
    (made : (match found with
      | none => reject .noBody
      | some body => do
        let body ← membersOfJson "query body" body
        Query.ofBody database body) = .ok query) :
    ∃ body, found = some (.object body) ∧ query.database = database ∧ query.IsReadFrom body := by
  cases found with
  | none => cases made
  | some value =>
    obtain ⟨body, members, made⟩ := Outcome.ok_of_bind made
    exact ⟨body, congrArg some (members_read members), body_read made⟩

/-- A query is read from the body under `query`, in a map that names no other type. -/
theorem query_read {value : Json} {query : Query} (made : Query.ofJson value = .ok query) :
    ∃ outer body, value = .object outer ∧ Keyed.find? outer "query" = some (.object body) ∧
      (∀ kind ∈ (Keyed.find? outer "type").bind Json.string?, kind = "query") ∧
      query.database = (Keyed.find? outer "database").bind Json.int64? ∧
      query.IsReadFrom body := by
  unfold Query.ofJson at made
  obtain ⟨outer, members, made⟩ := Outcome.ok_of_bind made
  dsimp only at made
  split at made
  · next kind typed =>
    split at made
    · next right =>
      obtain ⟨body, found, same, read⟩ := found_body_read made
      exact ⟨outer, body, members_read members, found, by simp [typed, right], same, read⟩
    · cases made
  · next untyped =>
    obtain ⟨body, found, same, read⟩ := found_body_read made
    exact ⟨outer, body, members_read members, found, by simp [untyped], same, read⟩

/-! ## Statements -/

/-- Each part of a statement is what was written for a clause of the query. -/
structure Sql.Select.IsMadeFrom (query : Query) (table : String) (names : FieldNames)
    (statement : Select) : Prop where
  source : statement.source = table
  columns : Query.identifiers names (if query.fields.isEmpty then query.breakout else query.fields) =
    .ok statement.columns
  grouping : Query.identifiers names query.breakout = .ok statement.grouping
  aggregations : query.aggregations.mapM (Aggregation.item names) = .ok statement.aggregations
  sorting : query.orderBy.mapM (Query.sortItem names query.aggregations) = .ok statement.sorting
  condition : ∀ phrase, statement.condition = some phrase ↔
    ∃ filter, query.filter = some filter ∧ filter.phrase names = .ok phrase
  page : statement.page = Page.ofNumber query.limit query.page

/-- A statement is made clause by clause. -/
theorem statement_made {query : Query} {table : String} {names : FieldNames} {statement : Select}
    (made : query.select table names = .ok statement) : statement.IsMadeFrom query table names := by
  obtain ⟨columns, eachColumn, made⟩ := Outcome.ok_of_bind made
  obtain ⟨grouping, eachGroup, made⟩ := Outcome.ok_of_bind made
  obtain ⟨aggregations, eachItem, made⟩ := Outcome.ok_of_bind made
  obtain ⟨sorting, eachSort, made⟩ := Outcome.ok_of_bind made
  split at made
  · next unfiltered =>
    cases made
    exact ⟨rfl, eachColumn, eachGroup, eachItem, eachSort, by simp [unfiltered], rfl⟩
  · next filter filtered =>
    obtain ⟨condition, held, made⟩ := Outcome.ok_of_bind made
    obtain ⟨phrase, written, rfl⟩ := Outcome.ok_of_map held
    cases made
    exact ⟨rfl, eachColumn, eachGroup, eachItem, eachSort, by simp [filtered, written], rfl⟩

section Compiled

variable {timeout : Option Duration} {metadata : Metadata} {earlier : List Lookup} {native : NativeQuery}

/-- A compiled query is the statement selected from it once the table and the columns were found. -/
theorem Query.compiled_from {query : Query}
    (compiled : (query.compile timeout metadata earlier).result = .ok native) :
    ∃ table names statement, (query.lookUp metadata earlier).result = .ok (table, names) ∧
      query.select table names = .ok statement ∧ native.statement = statement.render := by
  have ended := Asking.ended_of_result compiled
  obtain ⟨⟨table, names⟩, between, found, ended⟩ := Asking.ok_of_bind ended
  obtain ⟨statement, after, made, ended⟩ := Asking.ok_of_bind ended
  cases ended
  have looked := Asking.ok_of_mapError found
  exact ⟨table, names, statement, congrArg Asked.result looked, congrArg Asked.result made, rfl⟩

/-- A query map is compiled as the query that is read from it. -/
theorem Query.compiled_as_read {value : Json}
    (compiled : (Query.compileJson value timeout metadata earlier).result = .ok native) :
    ∃ query, Query.ofJson value = .ok query ∧
      (query.compile timeout metadata earlier).result = .ok native := by
  have ended := Asking.ended_of_result compiled
  obtain ⟨query, between, read, ended⟩ := Asking.ok_of_bind ended
  obtain rfl : earlier = between := congrArg Asked.lookups read
  exact ⟨query, congrArg Asked.result read, congrArg Asked.result ended⟩

end Compiled

end ColumnQuery
