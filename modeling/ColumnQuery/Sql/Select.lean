import ColumnQuery.Sql.Page

/-! Statements over one source. The clauses come in a fixed order and an empty one is left out. A
statement is rendered together with the texts of the pieces it was made from. -/
namespace ColumnQuery.Sql

/-- An item of the selection, with the name it is given. -/
structure SelectItem where
  phrase : Phrase
  name : Option String := none
deriving DecidableEq

/-- The item with its name after it. -/
def SelectItem.tokens (item : SelectItem) : Phrase :=
  match item.name with
  | none => item.phrase
  | some name => item.phrase ++ [.space, .keyword .asName, .space, .identifier name]

/-- The two directions of sorting. -/
inductive Direction
  | ascending
  | descending
deriving DecidableEq

/-- The keyword of a direction. -/
def Direction.keyword : Direction → Keyword
  | .ascending => .ascending
  | .descending => .descending

/-- An item that rows are sorted by. -/
structure SortItem where
  phrase : Phrase
  direction : Direction
deriving DecidableEq

/-- The item with its direction after it. -/
def SortItem.tokens (item : SortItem) : Phrase :=
  item.phrase ++ [.space, .keyword item.direction.keyword]

/-- A statement over one source. -/
structure Select where
  source : String
  columns : List Phrase := []
  aggregations : List SelectItem := []
  condition : Option Phrase := none
  grouping : List Phrase := []
  sorting : List SortItem := []
  page : Page := {}
deriving DecidableEq

/-- A statement as text, with the texts of its pieces. -/
structure Rendered where
  sql : String
  columns : List String
  grouping : List String
  aggregations : List String
  condition : Option String
  sorting : List String
  limit : Option UInt64
  offset : Option UInt64
  source : String
deriving DecidableEq

namespace Select

/-- What is selected: the aggregations, or without any the columns, or without any everything. -/
def selection (statement : Select) : List Phrase :=
  if statement.aggregations ≠ [] then statement.aggregations.map SelectItem.tokens
  else if statement.columns ≠ [] then statement.columns
  else [[.mark .star]]

/-- The condition, unless there is nothing in it. -/
def condition? (statement : Select) : Option Phrase :=
  statement.condition.filter fun phrase => !phrase.isEmpty

/-- A clause after a blank: its keyword and what it holds, or nothing if it holds nothing. -/
def clause (keyword : Keyword) (items : List Phrase) : Phrase :=
  if items.isEmpty then [] else [.space, .keyword keyword, .space] ++ Phrase.listed items

/-- The tokens of the statement. -/
def tokens (statement : Select) : Phrase :=
  [.keyword .select, .space] ++ Phrase.listed statement.selection ++
    [.space, .keyword .fromSource, .space, .identifier statement.source] ++
    clause .whereHolds statement.condition?.toList ++
    clause .groupBy statement.grouping ++
    clause .orderBy (statement.sorting.map SortItem.tokens) ++
    (if statement.page.phrase.isEmpty then [] else .space :: statement.page.phrase)

/-- The text of the statement. -/
def sql (statement : Select) : String :=
  Phrase.text statement.tokens

/-- The statement with its pieces. -/
def render (statement : Select) : Rendered where
  sql := statement.sql
  columns := statement.columns.map Phrase.text
  grouping := statement.grouping.map Phrase.text
  aggregations := statement.aggregations.map fun item => Phrase.text item.tokens
  condition := statement.condition?.map Phrase.text
  sorting := statement.sorting.map fun item => Phrase.text item.tokens
  limit := statement.page.limit
  offset := statement.page.offset
  source := statement.source

end Select

/-- An optional word as JSON. -/
def Rendered.wordJson (n : Option UInt64) : Json :=
  (n.map Json.ofWord).getD .null

/-- The rendered statement as a JSON object. -/
def Rendered.toJson (r : Rendered) : Json :=
  let texts (items : List String) := Json.array (items.map .string)
  .object
    [ ("sql", .string r.sql),
      ("columns", texts r.columns),
      ("group-by", texts r.grouping),
      ("aggregations", texts r.aggregations),
      ("where", (r.condition.map Json.string).getD .null),
      ("order-by", texts r.sorting),
      ("limit", wordJson r.limit),
      ("offset", wordJson r.offset),
      ("dataSource", .string r.source) ]

end ColumnQuery.Sql
