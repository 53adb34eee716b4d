import ColumnQuery.Field

/-! Predicates that compare one column with a list of values. The filters of structured queries and
the field filters of templates both become SQL here, so that they agree. -/
namespace ColumnQuery
open Sql

/-- How a column is compared with values: by equality, or by a pattern made from each value. -/
inductive Operator
  | equal
  | notEqual
  | contains
  | doesNotContain
  | startsWith
  | endsWith
deriving DecidableEq

namespace Operator

/-- The name of an operator. -/
def name : Operator → String
  | .equal => "="
  | .notEqual => "!="
  | .contains => "contains"
  | .doesNotContain => "does-not-contain"
  | .startsWith => "starts-with"
  | .endsWith => "ends-with"

/-- A name without the kind of value that may be written before it. -/
def bareName (name : List Char) : List Char :=
  if "string/".toList.isPrefixOf name then name.drop 7
  else if "number/".toList.isPrefixOf name then name.drop 7
  else name

/-- The operator with a name. Equality has three names, and the kind of value may be written before
any of them. -/
def ofName? (name : String) : Option Operator :=
  match String.ofList (bareName name.toList) with
  | "=" => some .equal
  | "category" => some .equal
  | "id" => some .equal
  | "!=" => some .notEqual
  | "contains" => some .contains
  | "does-not-contain" => some .doesNotContain
  | "starts-with" => some .startsWith
  | "ends-with" => some .endsWith
  | _ => none

/-- Whether values become patterns. -/
def isPattern : Operator → Bool
  | .equal | .notEqual => false
  | _ => true

/-- Whether a row is wanted that does not match. -/
def isNegated : Operator → Bool
  | .notEqual | .doesNotContain => true
  | _ => false

/-- The wildcards before and after a value in a pattern. -/
def wildcards : Operator → String × String
  | .contains | .doesNotContain => ("%", "%")
  | .startsWith => ("", "%")
  | .endsWith => ("%", "")
  | .equal | .notEqual => ("", "")

end Operator

/-- Why a value has no rendering: there is none, there is none to filter a column with, or the
column has no name. -/
inductive RenderError
  | missingParameter (name : String)
  | missingFilterValue (field : String)
  | unresolved (cause : LookupError)
deriving DecidableEq

/-- The text of a failed rendering. -/
def RenderError.message : RenderError → String
  | .missingParameter name => "Missing value for required parameter '" ++ name ++ "'"
  | .missingFilterValue field => "Missing value for filter on field '" ++ field ++ "'"
  | .unresolved cause => cause.message

namespace Predicate

/-- A list of values: one alone, several between parentheses. -/
def values? : List Literal → Option Phrase
  | [] => none
  | [value] => some [.literal value]
  | several => some (Phrase.parenthesized (Phrase.listed (several.map fun value => [.literal value])))

/-- The sign of an equality: it depends on whether there is one value or a list of them. -/
def equalitySign (negated single : Bool) : Phrase :=
  match negated, single with
  | false, true => [.mark .equal]
  | true, true => [.mark .notEqual]
  | false, false => [.keyword .inList]
  | true, false => [.keyword .not, .space, .keyword .inList]

/-- A column is equal to a value, or to one of several. -/
def equality (column : String) (negated : Bool) (values : List Literal) : Phrase :=
  [.identifier column, .space] ++ equalitySign negated (values.length == 1) ++ [.space] ++
    (values? values).getD []

/-- What a pattern is matched with: the column, or its lower case when case does not count. -/
def subject (column : String) (caseSensitive : Bool) : Phrase :=
  if caseSensitive then [.identifier column] else Phrase.call "lower" [.identifier column]

/-- The pattern that a value becomes. -/
def pattern (operator : Operator) (caseSensitive : Bool) (value : Literal) : String :=
  let text := if caseSensitive then value.plainText else Text.lowercase value.plainText
  operator.wildcards.1 ++ text ++ operator.wildcards.2

/-- A column matches, or does not match, the pattern of one value. -/
def patternMatch (column : String) (operator : Operator) (caseSensitive : Bool) (value : Literal) :
    Phrase :=
  subject column caseSensitive ++ [.space] ++
    (if operator.isNegated then [.keyword .not, .space] else []) ++
    [.keyword .like, .space, .literal (.text (pattern operator caseSensitive value))]

/-- One of several phrases holds, or all of them; one phrase stands alone. -/
def combined (joiner : Keyword) : List Phrase → Phrase
  | [phrase] => phrase
  | phrases => Phrase.parenthesized (Phrase.joined (.keyword joiner) phrases)

/-- A column matches the pattern of one of the values, or of none of them. Absent values have no
pattern. -/
def patterns (column : String) (operator : Operator) (caseSensitive : Bool)
    (values : List Literal) : Phrase :=
  combined (if operator.isNegated then .and else .or)
    ((values.filter (!·.isNull)).map (patternMatch column operator caseSensitive))

/-- The predicate that compares a column with values. There has to be a value that is not absent. -/
def onField (column : String) (operator : Operator) (values : List Literal) (caseSensitive : Bool) :
    Except RenderError Phrase :=
  if values.all Literal.isNull then .error (.missingFilterValue column)
  else if operator.isPattern then .ok (patterns column operator caseSensitive values)
  else .ok (equality column operator.isNegated values)

end Predicate

end ColumnQuery
