import ColumnQuery.Decimal.Layout
import ColumnQuery.Json.Basic
import ColumnQuery.Text.Basic

/-! The texts of JSON values: on one line without blanks, or laid out over lines with two blanks for
each level. Strings keep every character but the quote, the backslash and the control characters. -/
namespace ColumnQuery.Json
open Text

/-- How a character is written inside a string. -/
def escaped (c : Char) : List Char :=
  if c = '"' then ['\\', '"']
  else if c = '\\' then ['\\', '\\']
  else if c = '\n' then ['\\', 'n']
  else if c = '\t' then ['\\', 't']
  else if c = '\r' then ['\\', 'r']
  else if c = '\x08' then ['\\', 'b']
  else if c = '\x0c' then ['\\', 'f']
  else if c.toNat < 0x20 then '\\' :: 'u' :: hexDigits 4 c.toNat
  else [c]

/-- A string between quotes. -/
def stringText (s : String) : String :=
  "\"" ++ String.ofList (s.toList.flatMap escaped) ++ "\""

/-- Doubles in JSON: as in statements, but with a sign before every exponent. -/
def doubleLayout : Decimal.Layout :=
  { Decimal.compact with exponentMark := "+" }

/-- A number: an integer by its digits, a double by the shortest decimal that reads back. -/
def Number.text : Number → String
  | .integer value _ _ => toString value
  | .real value _ => doubleLayout.text value

mutual

/-- The text of a value on one line. -/
def text : Json → String
  | .null => "null"
  | .bool value => if value then "true" else "false"
  | .number value => value.text
  | .string value => stringText value
  | .array items => "[" ++ itemsText items ++ "]"
  | .object members => "\x7b" ++ membersText members ++ "\x7d"

/-- The items of an array with commas between them. -/
def itemsText : List Json → String
  | [] => ""
  | [item] => item.text
  | item :: rest => item.text ++ "," ++ itemsText rest

/-- The members of an object with commas between them. -/
def membersText : List (String × Json) → String
  | [] => ""
  | [(key, value)] => stringText key ++ ":" ++ value.text
  | (key, value) :: rest => stringText key ++ ":" ++ value.text ++ "," ++ membersText rest

end

/-- A line break and the indentation of a level. -/
def lineBreak (level : Nat) : String :=
  "\n" ++ String.ofList (List.replicate (2 * level) ' ')

mutual

/-- The text of a value that starts on a line of the given level. -/
def prettyAt (level : Nat) : Json → String
  | .array (item :: rest) =>
    "[" ++ prettyItems (level + 1) (item :: rest) ++ lineBreak level ++ "]"
  | .object (member :: rest) =>
    "\x7b" ++ prettyMembers (level + 1) (member :: rest) ++ lineBreak level ++ "\x7d"
  | .array [] => "[]"
  | .object [] => "\x7b\x7d"
  | .null => "null"
  | .bool value => if value then "true" else "false"
  | .number value => value.text
  | .string value => stringText value

/-- The items of an array, each on its line. -/
def prettyItems (level : Nat) : List Json → String
  | [] => ""
  | [item] => lineBreak level ++ prettyAt level item
  | item :: rest => lineBreak level ++ prettyAt level item ++ "," ++ prettyItems level rest

/-- The members of an object, each on its line. -/
def prettyMembers (level : Nat) : List (String × Json) → String
  | [] => ""
  | [(key, value)] => lineBreak level ++ stringText key ++ ": " ++ prettyAt level value
  | (key, value) :: rest =>
    lineBreak level ++ stringText key ++ ": " ++ prettyAt level value ++ "," ++
      prettyMembers level rest

end

/-- The text of a value laid out over lines. -/
def pretty (value : Json) : String :=
  prettyAt 0 value

end ColumnQuery.Json
