import ColumnQuery.Json.Printer
import ColumnQuery.Predicate

/-! Why a query cannot be compiled, with the text of each reason. -/
namespace ColumnQuery

/-- The parts of a query that are written as a list headed by a word. -/
inductive ClausePart
  | fieldReference
  | aggregation
  | orderItem
deriving DecidableEq

/-- A part of a query in words. -/
def ClausePart.describe : ClausePart → String
  | .fieldReference => "field reference"
  | .aggregation => "aggregation"
  | .orderItem => "order-by item"

/-- What is wrong with the shape of a filter. -/
inductive FilterFault
  | notAList
  | noOperator
  | noClause (word : String)
  | notTakesOne
  | betweenTakesThree
  | noField (word : String)
  | noValue (word : String)
  | takesFieldAndValue (word : String)
deriving DecidableEq

/-- The text of a fault in a filter. -/
def FilterFault.message : FilterFault → String
  | .notAList => "filter clauses must be lists"
  | .noOperator => "filter clauses start with an operator"
  | .noClause word => "'" ++ word ++ "' requires at least one clause"
  | .notTakesOne => "'not' takes exactly one clause"
  | .betweenTakesThree => "'between' takes a field and two bounds"
  | .noField word => "'" ++ word ++ "' requires a field"
  | .noValue word => "'" ++ word ++ "' requires a value"
  | .takesFieldAndValue word => "'" ++ word ++ "' takes a field and a value"

/-- What is wrong with a query outside the shape of its filter. -/
inductive QueryFault
  | notAnObject (what : String)
  | wrongType (kind : String)
  | noBody
  | sourceTable
  | malformed (part : ClausePart) (value : Json)
  | fieldIdNotInteger
  | fieldTargetNotInteger
  | fieldTarget
  | join
  | unsupportedField (word : String)
  | notAList (clause : String)
  | caseSensitivity
  | filterOptions
  | unsupportedValue (value : Json)
  | percentileArguments
  | takesOneField (word : String)
  | sortDirection (word : String)
  | sortTarget
  | noSuchAggregation
  | notACount (name : String)
  | pageNumber
  | aggregationField (word : String)
  | percentileOperand
  | missingAggregation (index : Nat)

/-- The text of a fault in a query. -/
def QueryFault.message : QueryFault → String
  | .notAnObject what => what ++ " must be an object"
  | .wrongType kind => "expected an MBQL query, got type '" ++ kind ++ "'"
  | .noBody => "missing 'query' body"
  | .sourceTable => "'source-table' must be a table id"
  | .malformed part value => "malformed " ++ part.describe ++ ": " ++ value.text
  | .fieldIdNotInteger => "'field-id' expects an integer id"
  | .fieldTargetNotInteger => "'field' id must be an integer"
  | .fieldTarget => "'field' expects an id or a column name"
  | .join => "joins are not supported"
  | .unsupportedField word => "unsupported field reference '" ++ word ++ "'"
  | .notAList clause => "'" ++ clause ++ "' must be a list"
  | .caseSensitivity => "'case-sensitive' must be a boolean"
  | .filterOptions => "filter options must be an object"
  | .unsupportedValue value => "unsupported filter value: " ++ value.text
  | .percentileArguments => "'percentile' takes a field and a percentile"
  | .takesOneField word => "'" ++ word ++ "' takes exactly one field"
  | .sortDirection word => "unknown sort direction '" ++ word ++ "'"
  | .sortTarget => "order-by items take exactly one target"
  | .noSuchAggregation => "order-by references a missing aggregation"
  | .notACount name => "'" ++ name ++ "' must be a non-negative integer"
  | .pageNumber => "'page' must be a positive integer"
  | .aggregationField word => "'" ++ word ++ "' aggregation requires a field"
  | .percentileOperand => "'percentile' aggregation requires a percentile"
  | .missingAggregation index => "order-by references missing aggregation " ++ toString index

/-- Why a query cannot be compiled. -/
inductive CompileError
  | unresolved (cause : LookupError)
  | unsupportedAggregation (word : String)
  | unsupportedOperator (word : String)
  | malformedFilter (fault : FilterFault)
  | invalidQuery (fault : QueryFault)
  | missingParameter (name : String)
  | missingFilterValue (field : String)

namespace CompileError

/-- A failed rendering as a reason why a query cannot be compiled. -/
def ofRender : RenderError → CompileError
  | .unresolved cause => .unresolved cause
  | .missingParameter name => .missingParameter name
  | .missingFilterValue field => .missingFilterValue field

/-- The text of the reason. -/
def message : CompileError → String
  | .unresolved cause => "Unresolved field: " ++ cause.message
  | .unsupportedAggregation word => "Unsupported aggregation: " ++ word
  | .unsupportedOperator word => "Unsupported operator: " ++ word
  | .malformedFilter fault => "Malformed filter: " ++ fault.message
  | .invalidQuery fault => "Invalid query: " ++ fault.message
  | .missingParameter name => (RenderError.missingParameter name).message
  | .missingFilterValue field => (RenderError.missingFilterValue field).message

end CompileError

end ColumnQuery
