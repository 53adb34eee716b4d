import ColumnQuery.Calendar
import ColumnQuery.Decimal.Layout
import ColumnQuery.Json.Basic
import ColumnQuery.Text.Basic
import ColumnQuery.Uuid

/-! Literal values and the two texts they have: the one that stands in a statement, escaped and ready
to be inlined, and the plain one that becomes part of a pattern. -/
namespace ColumnQuery.Sql
open Text

/-- A date or a time of one of four kinds. -/
inductive Temporal
  | date (value : Calendar.Date)
  | time (value : Calendar.Time)
  | dateTime (value : Calendar.DateTime)
  | instant (value : Calendar.Instant)
deriving DecidableEq

/-- The text of a date or a time, which sorts as the times do within four-digit years. -/
def Temporal.text : Temporal → String
  | .date value => value.text
  | .time value => value.text
  | .dateTime value => value.text
  | .instant value => value.text

/-- A value that a query compares with or inlines. -/
inductive Literal
  | null
  | text (value : String)
  | integer (value : Int64)
  | real (value : Binary64)
  | boolean (value : Bool)
  | uuid (value : Uuid)
  | temporal (value : Temporal)
deriving DecidableEq

/-- The name of the dialect. -/
def dialectName : String :=
  "pql"

/-- A name between double quotes. -/
def identifierText (name : String) : String :=
  quoted '"' name

/-- A string between single quotes. -/
def stringText (s : String) : String :=
  quoted '\'' s

/-- The absent value. -/
def nullText : String :=
  "NULL"

/-- A truth value. -/
def booleanText (b : Bool) : String :=
  if b then "TRUE" else "FALSE"

/-- A double by the shortest decimal that reads back. An infinity or a NaN has no spelling and is
absent. -/
def realText (x : Binary64) : String :=
  if x.isFinite then Decimal.compact.text x else nullText

namespace Literal

/-- Whether the value is absent. -/
def isNull : Literal → Bool
  | .null => true
  | _ => false

/-- The literal as it stands in a statement. -/
def sql : Literal → String
  | .null => nullText
  | .text value => stringText value
  | .integer value => toString value.toInt
  | .real value => realText value
  | .boolean value => booleanText value
  | .uuid value => stringText value.text
  | .temporal value => stringText value.text

/-- The literal as part of a pattern, unquoted. -/
def plainText : Literal → String
  | .null => ""
  | .text value => value
  | .integer value => toString value.toInt
  | .real value => Decimal.plainText value
  | .boolean value => if value then "true" else "false"
  | .uuid value => value.text
  | .temporal value => value.text

/-- A JSON scalar as a literal. A string stays a string whatever it looks like, and an integer beyond
the signed words becomes a double. -/
def ofJson? : Json → Option Literal
  | .null => some .null
  | .bool value => some (.boolean value)
  | .number value =>
    match value.int64? with
    | some n => some (.integer n)
    | none => some (.real value.toBinary64)
  | .string value => some (.text value)
  | .array _ => none
  | .object _ => none

end Literal

end ColumnQuery.Sql
