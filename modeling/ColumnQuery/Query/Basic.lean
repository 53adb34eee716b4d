import ColumnQuery.Query.Aggregation
import ColumnQuery.Query.Filter

/-! Structured queries over one table, with everything they refer to given by id or by name. -/
namespace ColumnQuery
open Sql

/-- What rows are sorted by: a column, or the aggregation at a position. -/
inductive SortTarget
  | field (field : FieldRef)
  | aggregation (index : Nat)
deriving DecidableEq

/-- A target with a direction. -/
structure SortOrder where
  target : SortTarget
  direction : Direction
deriving DecidableEq

/-- A query over one table. -/
structure Query where
  database : Option Int64 := none
  sourceTable : Int64
  fields : List FieldRef := []
  breakout : List FieldRef := []
  aggregations : List Aggregation := []
  filter : Option Filter := none
  orderBy : List SortOrder := []
  limit : Option UInt64 := none
  page : Option UInt64 := none

/-- The columns that a sort refers to. -/
def SortOrder.fieldRefs (order : SortOrder) : List FieldRef :=
  match order.target with
  | .field field => [field]
  | .aggregation _ => []

/-- The columns that a query refers to, clause by clause; one may occur more than once. -/
def Query.fieldRefs (query : Query) : List FieldRef :=
  query.fields ++ query.breakout ++
    (query.filter.map Filter.fieldRefs).getD [] ++
    query.aggregations.flatMap Aggregation.fieldRefs ++
    query.orderBy.flatMap SortOrder.fieldRefs

end ColumnQuery
