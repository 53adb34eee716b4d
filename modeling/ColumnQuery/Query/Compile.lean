import ColumnQuery.Options
import ColumnQuery.Query.OfJson

/-! From a query to a statement. The table and every column are looked up before anything is built, so
an unknown id fails the query whatever else is wrong with it. -/
namespace ColumnQuery
open Sql

/-- A statement made from a query, with the options that travel with it. -/
structure NativeQuery where
  statement : Rendered
  options : Options := {}

/-- The native query as a JSON object. -/
def NativeQuery.toJson (query : NativeQuery) : Json :=
  .object
    ([("mbql?", .bool true), ("query", query.statement.toJson)] ++ query.options.member)

namespace Query

/-- Columns as identifiers. -/
def identifiers (names : FieldNames) (fields : List FieldRef) :
    Except CompileError (List Phrase) :=
  fields.mapM (Aggregation.identifier names)

/-- What rows are sorted by: the name of a column, or the name that an aggregation was given. -/
def sortPhrase (names : FieldNames) (aggregations : List Aggregation) :
    SortTarget → Except CompileError Phrase
  | .field field => Aggregation.identifier names field
  | .aggregation index =>
    match aggregations[index]? with
    | some aggregation => .ok [.identifier aggregation.resultName]
    | none => .error (.invalidQuery (.missingAggregation index))

/-- An item that rows are sorted by. -/
def sortItem (names : FieldNames) (aggregations : List Aggregation) (order : SortOrder) :
    Except CompileError SortItem :=
  (sortPhrase names aggregations order.target).map fun phrase => ⟨phrase, order.direction⟩

/-- The statement for a query, once the table and the columns have names. Without columns of its own
the query shows those that it groups by. -/
def select (query : Query) (table : String) (names : FieldNames) : Except CompileError Select := do
  let columns ← identifiers names (if query.fields.isEmpty then query.breakout else query.fields)
  let grouping ← identifiers names query.breakout
  let aggregations ← query.aggregations.mapM (Aggregation.item names)
  let sorting ← query.orderBy.mapM (sortItem names query.aggregations)
  let condition ←
    match query.filter with
    | none => .ok none
    | some filter => (filter.phrase names).map some
  return {
    source := table
    columns, aggregations, condition, grouping, sorting
    page := Page.ofNumber query.limit query.page }

/-- Looks up the table and then every column, each id once, in the order of the clauses. -/
def lookUp (query : Query) : Asking LookupError (String × FieldNames) := do
  let table ← Asking.ask (.table query.sourceTable)
  let names ← FieldNames.resolve query.fieldRefs
  return (table, names)

/-- Compiles a query, with a timeout for whatever runs it. -/
def compile (query : Query) (timeout : Option Duration) : Asking CompileError NativeQuery := do
  let (table, names) ← query.lookUp.mapError .unresolved
  let statement ← Asking.ofExcept (query.select table names)
  return { statement := statement.render, options := Options.withTimeout? {} timeout }

/-- Reads and compiles a query. -/
def compileJson (value : Json) (timeout : Option Duration) : Asking CompileError NativeQuery := do
  let query ← Asking.ofExcept (Query.ofJson value)
  query.compile timeout

end Query

end ColumnQuery
