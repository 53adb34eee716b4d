import ColumnQuery.Query.Error

/-! The filter of a query: a tree of conditions on columns, and the condition of a statement that it
becomes. -/
namespace ColumnQuery
open Sql

/-- How a column is compared with one value. -/
inductive Comparison
  | equal
  | notEqual
  | greater
  | less
  | greaterOrEqual
  | lessOrEqual
deriving DecidableEq

namespace Comparison

/-- The comparison with a sign. -/
def ofSign? : String → Option Comparison
  | "=" => some .equal
  | "!=" => some .notEqual
  | ">" => some .greater
  | "<" => some .less
  | ">=" => some .greaterOrEqual
  | "<=" => some .lessOrEqual
  | _ => none

/-- The sign of a comparison in a statement. -/
def mark : Comparison → Mark
  | .equal => .equal
  | .notEqual => .notEqual
  | .greater => .greater
  | .less => .less
  | .greaterOrEqual => .greaterOrEqual
  | .lessOrEqual => .lessOrEqual

end Comparison

/-- How the text of a column is matched with a value. -/
inductive TextMatch
  | contains
  | doesNotContain
  | startsWith
  | endsWith
deriving DecidableEq

namespace TextMatch

/-- The match with a name. -/
def ofName? : String → Option TextMatch
  | "contains" => some .contains
  | "does-not-contain" => some .doesNotContain
  | "starts-with" => some .startsWith
  | "ends-with" => some .endsWith
  | _ => none

/-- The match as an operator on values. -/
def operator : TextMatch → Operator
  | .contains => .contains
  | .doesNotContain => .doesNotContain
  | .startsWith => .startsWith
  | .endsWith => .endsWith

end TextMatch

/-- A condition on the columns of a row. -/
inductive Filter
  | compare (comparison : Comparison) (field : FieldRef) (value : Literal)
  | between (field : FieldRef) (low high : Literal)
  | member (field : FieldRef) (values : List Literal) (negated : Bool)
  | textMatch (kind : TextMatch) (field : FieldRef) (value : Literal) (caseSensitive : Bool)
  | all (parts : List Filter)
  | any (parts : List Filter)
  | not (part : Filter)

namespace Filter

mutual

/-- The columns of a filter, depth first and from left to right. -/
def fieldRefs : Filter → List FieldRef
  | .compare _ field _ => [field]
  | .between field _ _ => [field]
  | .member field _ _ => [field]
  | .textMatch _ field _ _ => [field]
  | .all parts => fieldRefsOfAll parts
  | .any parts => fieldRefsOfAll parts
  | .not part => part.fieldRefs

/-- The columns of several filters in their order. -/
def fieldRefsOfAll : List Filter → List FieldRef
  | [] => []
  | part :: rest => part.fieldRefs ++ fieldRefsOfAll rest

end

/-- A column and what follows it, if the column has a name. -/
def onIdentifier (names : FieldNames) (field : FieldRef) (rest : Phrase) :
    Except CompileError Phrase :=
  match names.identifier field with
  | .ok column => .ok (column ++ rest)
  | .error cause => .error (.unresolved cause)

/-- The predicate that compares a column with values, if the column has a name. -/
def onValues (names : FieldNames) (field : FieldRef) (operator : Operator) (values : List Literal)
    (caseSensitive : Bool) : Except CompileError Phrase :=
  match names.nameOf field with
  | .ok column =>
    (Predicate.onField column operator values caseSensitive).mapError CompileError.ofRender
  | .error cause => .error (.unresolved cause)

/-- Conditions between parentheses, joined by a keyword. -/
def group (joiner : Keyword) (phrases : List Phrase) : Phrase :=
  Phrase.parenthesized (Phrase.joined (.keyword joiner) phrases)

mutual

/-- The condition that a filter becomes. The first part that fails, from left to right, decides the
error. -/
def phrase (names : FieldNames) : Filter → Except CompileError Phrase
  | .compare comparison field value =>
    onIdentifier names field [.space, .mark comparison.mark, .space, .literal value]
  | .between field low high =>
    onIdentifier names field
      [.space, .keyword .between, .space, .literal low, .space, .keyword .and, .space,
        .literal high]
  | .member field values negated =>
    onValues names field (if negated then .notEqual else .equal) values true
  | .textMatch kind field value caseSensitive =>
    onValues names field kind.operator [value] caseSensitive
  | .all parts =>
    if parts.isEmpty then .error (.malformedFilter (.noClause "and"))
    else (phrases names parts).map (group .and)
  | .any parts =>
    if parts.isEmpty then .error (.malformedFilter (.noClause "or"))
    else (phrases names parts).map (group .or)
  | .not part => (part.phrase names).map ([.keyword .not, .space] ++ ·)

/-- The conditions that several filters become. -/
def phrases (names : FieldNames) : List Filter → Except CompileError (List Phrase)
  | [] => .ok []
  | part :: rest =>
    match part.phrase names with
    | .error error => .error error
    | .ok first => (phrases names rest).map (first :: ·)

end

end Filter

end ColumnQuery
