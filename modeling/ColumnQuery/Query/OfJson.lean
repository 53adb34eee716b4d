import ColumnQuery.Query.Basic

/-! Queries as JSON maps. A clause is a list headed by a word, and each shape of clause is read in one
place; of several faults the first in the order of reading is reported. -/
namespace ColumnQuery
open Sql

/-- A fault outside the filter's shape. -/
def reject {α : Type} (fault : QueryFault) : Except CompileError α :=
  .error (.invalidQuery fault)

/-- A fault in the filter's shape. -/
def rejectFilter {α : Type} (fault : FilterFault) : Except CompileError α :=
  .error (.malformedFilter fault)

/-- Reads a column: an id, or a clause that holds an id, a name or another such clause. -/
def FieldRef.ofJson (value : Json) : Except CompileError FieldRef :=
  match value with
  | .number n =>
    match n.int64? with
    | some id => .ok (.byId id)
    | none => reject (.malformed .fieldReference value)
  | .array (.string head :: args) =>
    if head = "field-id" then
      match args with
      | [id] =>
        match id.int64? with
        | some id => .ok (.byId id)
        | none => reject .fieldIdNotInteger
      | _ => reject (.unsupportedField head)
    else if head = "field" then
      match args with
      | .number n :: _ =>
        match n.int64? with
        | some id => .ok (.byId id)
        | none => reject .fieldTargetNotInteger
      | .string name :: _ => .ok (.byName name)
      | _ :: _ => reject .fieldTarget
      | [] => reject (.unsupportedField head)
    else if head = "field-literal" then
      match args with
      | .string name :: _ => .ok (.byName name)
      | _ => reject (.unsupportedField head)
    else if head = "datetime-field" then
      match args with
      | inner :: _ => FieldRef.ofJson inner
      | [] => reject (.unsupportedField head)
    else if head = "fk->" ∨ head = "joined-field" then reject .join
    else reject (.unsupportedField head)
  | _ => reject (.malformed .fieldReference value)

/-- Reads the value that a column is compared with: a scalar, or a clause that holds one. -/
def filterValueOfJson (value : Json) : Except CompileError Literal :=
  match Literal.ofJson? value with
  | some literal => .ok literal
  | none =>
    match value with
    | .array (.string head :: inner :: _) =>
      if head = "value" then filterValueOfJson inner else reject (.unsupportedValue value)
    | _ => reject (.unsupportedValue value)

/-- Reads the options of a text match, which may say whether case counts. -/
def caseSensitivityOfJson (options : Option Json) : Except CompileError Bool :=
  match options with
  | none => .ok true
  | some .null => .ok true
  | some (.object members) =>
    match Keyed.find? members "case-sensitive" with
    | none => .ok true
    | some (.bool value) => .ok value
    | some _ => reject .caseSensitivity
  | some _ => reject .filterOptions

/-- Reads a comparison for equality, or for inequality when it is negated, after its head. One value
is compared with, several are searched. -/
def Filter.equalityOfJson (head : String) (negated : Bool) (args : List Json) :
    Except CompileError Filter :=
  match args with
  | [] => rejectFilter (.noField head)
  | field :: values => do
    let field ← FieldRef.ofJson field
    let values ← values.mapM filterValueOfJson
    match values with
    | [] => rejectFilter (.noValue head)
    | [value] => return .compare (if negated then .notEqual else .equal) field value
    | several => return .member field several negated

/-- Reads a range after its head. -/
def Filter.betweenOfJson (args : List Json) : Except CompileError Filter :=
  match args with
  | [field, low, high] => do
    return .between (← FieldRef.ofJson field) (← filterValueOfJson low) (← filterValueOfJson high)
  | _ => rejectFilter .betweenTakesThree

/-- Reads a comparison by order or a text match after its head. -/
def Filter.binaryOfJson (head : String) (args : List Json) : Except CompileError Filter :=
  match Comparison.ofSign? head, TextMatch.ofName? head with
  | some comparison, _ =>
    match args with
    | [field, value] => do
      return .compare comparison (← FieldRef.ofJson field) (← filterValueOfJson value)
    | _ => rejectFilter (.takesFieldAndValue head)
  | none, some kind =>
    match args with
    | [field, value] => do
      return .textMatch kind (← FieldRef.ofJson field) (← filterValueOfJson value) true
    | [field, value, options] => do
      return .textMatch kind (← FieldRef.ofJson field) (← filterValueOfJson value)
        (← caseSensitivityOfJson (some options))
    | _ => rejectFilter (.takesFieldAndValue head)
  | none, none => .error (.unsupportedOperator head)

mutual

/-- Reads a filter. -/
def Filter.ofJson (value : Json) : Except CompileError Filter :=
  match value with
  | .array (.string head :: args) =>
    if head = "and" then
      if args.isEmpty then rejectFilter (.noClause head) else (Filter.listOfJson args).map .all
    else if head = "or" then
      if args.isEmpty then rejectFilter (.noClause head) else (Filter.listOfJson args).map .any
    else if head = "not" then
      match args with
      | [part] => (Filter.ofJson part).map .not
      | _ => rejectFilter .notTakesOne
    else if head = "between" then Filter.betweenOfJson args
    else if head = "=" then Filter.equalityOfJson head false args
    else if head = "!=" then Filter.equalityOfJson head true args
    else Filter.binaryOfJson head args
  | .array _ => rejectFilter .noOperator
  | _ => rejectFilter .notAList

/-- Reads filters in their order. -/
def Filter.listOfJson (values : List Json) : Except CompileError (List Filter) :=
  match values with
  | [] => .ok []
  | value :: rest =>
    match Filter.ofJson value with
    | .error error => .error error
    | .ok first => (Filter.listOfJson rest).map (first :: ·)

end

/-- Reads a list of columns; null is the empty list. -/
def fieldsOfJson (clause : String) (value : Json) : Except CompileError (List FieldRef) :=
  match value with
  | .null => .ok []
  | .array items => items.mapM FieldRef.ofJson
  | _ => reject (.notAList clause)

/-- Reads the percentile of an aggregation: a number, or a column. -/
def Percentile.ofJson (value : Json) : Except CompileError Percentile :=
  match value with
  | .number _ => (filterValueOfJson value).map .value
  | _ => (FieldRef.ofJson value).map .field

/-- Reads a plain aggregation after its head. -/
def Aggregation.plainOfJson (head : String) (args : List Json) : Except CompileError Aggregation :=
  match AggregationKind.ofWord? head with
  | none => .error (.unsupportedAggregation head)
  | some kind =>
    match kind, args with
    | .count, [] => .ok (.of .count none)
    | .percentile, [field, percentile] => do
      let percentile ← Percentile.ofJson percentile
      let field ← FieldRef.ofJson field
      return { Aggregation.of .percentile (some field) with percentile := some percentile }
    | .percentile, _ => reject .percentileArguments
    | kind, [field] => (FieldRef.ofJson field).map fun field => .of kind (some field)
    | _, _ => reject (.takesOneField head)

/-- The name that the options of an aggregation give it: a text under `name`, or under `display-name`
when there is nothing under `name`. -/
def optionsName? (options : Json) : Option String :=
  ((options.get? "name").or (options.get? "display-name")).bind Json.string?

/-- Reads an aggregation: a plain one, or one in a clause that may give it a name. -/
def Aggregation.ofJson (value : Json) : Except CompileError Aggregation :=
  match value with
  | .array (.string head :: args) =>
    if head = "aggregation-options" then
      match args with
      | inner :: options :: _ =>
        match Aggregation.ofJson inner, optionsName? options with
        | .ok aggregation, some name => .ok (aggregation.named name)
        | read, _ => read
      | _ => Aggregation.plainOfJson head args
    else if head = "named" then
      match args with
      | inner :: .string name :: _ => (Aggregation.ofJson inner).map (·.named name)
      | _ => Aggregation.plainOfJson head args
    else Aggregation.plainOfJson head args
  | _ => reject (.malformed .aggregation value)

/-- Reads the aggregations of a query, which get distinct names. A single one may stand without the
list around it. -/
def aggregationsOfJson (value : Json) : Except CompileError (List Aggregation) :=
  match value with
  | .null => .ok []
  | .array (.string head :: args) =>
    (Aggregation.ofJson (.array (.string head :: args))).map fun one =>
      Aggregation.withDistinctAliases [one]
  | .array items => (items.mapM Aggregation.ofJson).map Aggregation.withDistinctAliases
  | _ => reject (.notAList "aggregation")

/-- Reads a direction of sorting. -/
def directionOfJson (word : String) : Except CompileError Direction :=
  if word = "asc" then .ok .ascending
  else if word = "desc" then .ok .descending
  else reject (.sortDirection word)

/-- Reads what rows are sorted by, where a query has so many aggregations. -/
def SortTarget.ofJson (aggregations : Nat) (value : Json) : Except CompileError SortTarget :=
  match value with
  | .array [.string "aggregation", index] =>
    match index.word? with
    | some index =>
      if index.toNat < aggregations then .ok (.aggregation index.toNat)
      else reject .noSuchAggregation
    | none => reject .noSuchAggregation
  | _ => (FieldRef.ofJson value).map .field

/-- Reads one item that rows are sorted by. -/
def SortOrder.ofJson (aggregations : Nat) (value : Json) : Except CompileError SortOrder :=
  match value with
  | .array (.string head :: args) => do
    let direction ← directionOfJson head
    match args with
    | [target] => return ⟨← SortTarget.ofJson aggregations target, direction⟩
    | _ => reject .sortTarget
  | _ => reject (.malformed .orderItem value)

/-- Reads the items that rows are sorted by. -/
def sortOrdersOfJson (aggregations : Nat) (value : Json) : Except CompileError (List SortOrder) :=
  match value with
  | .array items => items.mapM (SortOrder.ofJson aggregations)
  | _ => reject (.notAList "order-by")

/-- Reads a number of rows that may be left out. -/
def countOfJson (name : String) (value : Option Json) : Except CompileError (Option UInt64) :=
  match value with
  | none => .ok none
  | some .null => .ok none
  | some value =>
    match value.word? with
    | some n => .ok (some n)
    | none => reject (.notACount name)

/-- Reads the number of a page, which counts from one. -/
def pageNumberOfJson (value : Option Json) : Except CompileError UInt64 :=
  match value.bind Json.word? with
  | some n => if 1 ≤ n then .ok n else reject .pageNumber
  | none => reject .pageNumber

/-- Reads the page of a query: its number alone, or an object that may also hold the number of rows
on a page, which then counts instead of the limit. -/
def pageOfJson (value : Option Json) (limit : Option UInt64) :
    Except CompileError (Option UInt64 × Option UInt64) :=
  match value with
  | none => .ok (limit, none)
  | some .null => .ok (limit, none)
  | some (.object members) => do
    let page ← pageNumberOfJson (Keyed.find? members "page")
    let items ← countOfJson "items" (Keyed.find? members "items")
    return (items.or limit, some page)
  | some value => (pageNumberOfJson (some value)).map fun page => (limit, some page)

/-- The members of an object. -/
def membersOfJson (what : String) (value : Json) : Except CompileError (List (String × Json)) :=
  match value with
  | .object members => .ok members
  | _ => reject (.notAnObject what)

/-- Reads a clause that may be left out. -/
def clauseOfJson {α : Type} (value : Option Json) (absent : α) (read : Json → Except CompileError α) :
    Except CompileError α :=
  match value with
  | none => .ok absent
  | some value => read value

/-- Reads the body of a query for a database. -/
def Query.ofBody (database : Option Int64) (body : List (String × Json)) :
    Except CompileError Query := do
  let clause := Keyed.find? body
  let sourceTable ←
    match (clause "source-table").bind Json.int64? with
    | some table => .ok table
    | none => reject .sourceTable
  let fields ← clauseOfJson (clause "fields") [] (fieldsOfJson "fields")
  let breakout ← clauseOfJson (clause "breakout") [] (fieldsOfJson "breakout")
  let aggregations ← clauseOfJson (clause "aggregation") [] aggregationsOfJson
  let filter ← clauseOfJson (clause "filter") none fun
    | .null => .ok none
    | value => (Filter.ofJson value).map some
  let orderBy ← clauseOfJson (clause "order-by") [] (sortOrdersOfJson aggregations.length)
  let limit ← countOfJson "limit" (clause "limit")
  let (limit, page) ← pageOfJson (clause "page") limit
  return { database, sourceTable, fields, breakout, aggregations, filter, orderBy, limit, page }

/-- Reads a query: a map with the body under `query`, and with the type `query` if it has a type. -/
def Query.ofJson (value : Json) : Except CompileError Query := do
  let outer ← membersOfJson "query map" value
  match (Keyed.find? outer "type").bind Json.string? with
  | some kind => if kind = "query" then pure () else reject (.wrongType kind)
  | none => pure ()
  match Keyed.find? outer "query" with
  | none => reject .noBody
  | some body => do
    let body ← membersOfJson "query body" body
    Query.ofBody ((Keyed.find? outer "database").bind Json.int64?) body

end ColumnQuery
