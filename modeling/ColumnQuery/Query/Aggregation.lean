import ColumnQuery.Query.Alias
import ColumnQuery.Query.Error
import ColumnQuery.Sql.Select

/-! The aggregations of a query and the items of the selection that they become. -/
namespace ColumnQuery
open Sql

/-- The functions that rows are aggregated by. -/
inductive AggregationKind
  | count
  | countDistinctExact
  | distinct
  | sum
  | average
  | minimum
  | maximum
  | percentile
  | approxMedian
deriving DecidableEq

namespace AggregationKind

/-- The word for a kind in a query. -/
def word : AggregationKind → String
  | .count => "count"
  | .countDistinctExact => "count-distinct-exact"
  | .distinct => "distinct"
  | .sum => "sum"
  | .average => "avg"
  | .minimum => "min"
  | .maximum => "max"
  | .percentile => "percentile"
  | .approxMedian => "approx-median"

/-- The kind with a word. The median has two words. -/
def ofWord? : String → Option AggregationKind
  | "count" => some .count
  | "count-distinct-exact" => some .countDistinctExact
  | "distinct" => some .distinct
  | "sum" => some .sum
  | "avg" => some .average
  | "min" => some .minimum
  | "max" => some .maximum
  | "percentile" => some .percentile
  | "approx-median" => some .approxMedian
  | "median" => some .approxMedian
  | _ => none

/-- The function that a kind calls in a statement. -/
def function : AggregationKind → String
  | .count => "COUNT"
  | .countDistinctExact => "DISTINCTCOUNT"
  | .distinct => "DISTINCT"
  | .sum => "SUM"
  | .average => "AVG"
  | .minimum => "MIN"
  | .maximum => "MAX"
  | .percentile => "PERCENTILE"
  | .approxMedian => "APPROXMEDIAN"

end AggregationKind

/-- Which percentile is taken: that of a column or a fixed one. -/
inductive Percentile
  | field (field : FieldRef)
  | value (value : Literal)
deriving DecidableEq

/-- One aggregation with the name of its result. -/
structure Aggregation where
  kind : AggregationKind
  field : Option FieldRef := none
  percentile : Option Percentile := none
  resultName : String
deriving DecidableEq

namespace Aggregation

/-- An aggregation named after its kind. -/
def of (kind : AggregationKind) (field : Option FieldRef) : Aggregation where
  kind := kind
  field := field
  resultName := Alias.sanitize kind.word kind.word

/-- The aggregation under another name, which is made a plain one. -/
def named (aggregation : Aggregation) (name : String) : Aggregation :=
  { aggregation with resultName := Alias.sanitize name aggregation.kind.word }

/-- The columns of an aggregation. -/
def fieldRefs (aggregation : Aggregation) : List FieldRef :=
  aggregation.field.toList ++
    match aggregation.percentile with
    | some (.field field) => [field]
    | _ => []

/-- The column as an identifier, with a missing name as a reason why a query cannot be compiled. -/
def identifier (names : FieldNames) (field : FieldRef) : Except CompileError Phrase :=
  (names.identifier field).mapError .unresolved

/-- What the function is first called on: everything to count, and a column otherwise. -/
def subject (names : FieldNames) (aggregation : Aggregation) : Except CompileError Phrase :=
  match aggregation.kind, aggregation.field with
  | .count, _ => .ok [.mark .star]
  | kind, none => .error (.invalidQuery (.aggregationField kind.word))
  | _, some field => identifier names field

/-- The second argument of a percentile, after a comma; other functions have none. -/
def secondArgument (names : FieldNames) (aggregation : Aggregation) : Except CompileError Phrase :=
  if aggregation.kind = .percentile then
    match aggregation.percentile with
    | none => .error (.invalidQuery .percentileOperand)
    | some (.field field) => (identifier names field).map ([.mark .comma, .space] ++ ·)
    | some (.value value) => .ok [.mark .comma, .space, .literal value]
  else .ok []

/-- The item of the selection that an aggregation becomes. -/
def item (names : FieldNames) (aggregation : Aggregation) : Except CompileError SelectItem := do
  let first ← aggregation.subject names
  let second ← aggregation.secondArgument names
  return ⟨Phrase.call aggregation.kind.function (first ++ second), some aggregation.resultName⟩

/-- The same aggregations under distinct names. -/
def withDistinctAliases (aggregations : List Aggregation) : List Aggregation :=
  List.zipWith (fun aggregation resultName => { aggregation with resultName }) aggregations
    (Alias.distinct (aggregations.map (·.resultName)))

end Aggregation

end ColumnQuery
