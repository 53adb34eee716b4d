import ColumnQuery.Sql.Literal
import ColumnQuery.Text.Casing

/-! The tokens that statements are made of. A value reaches a statement only inside a literal or an
identifier token, so escaping happens in one place. -/
namespace ColumnQuery.Sql

/-- The keywords of the dialect. -/
inductive Keyword
  | select
  | fromSource
  | whereHolds
  | and
  | or
  | not
  | asName
  | groupBy
  | orderBy
  | ascending
  | descending
  | limit
  | inList
  | between
  | like
deriving DecidableEq

/-- How a keyword is written. -/
def Keyword.text : Keyword → String
  | .select => "SELECT"
  | .fromSource => "FROM"
  | .whereHolds => "WHERE"
  | .and => "AND"
  | .or => "OR"
  | .not => "NOT"
  | .asName => "AS"
  | .groupBy => "GROUP BY"
  | .orderBy => "ORDER BY"
  | .ascending => "ASC"
  | .descending => "DESC"
  | .limit => "LIMIT"
  | .inList => "IN"
  | .between => "BETWEEN"
  | .like => "LIKE"

/-- Punctuation and the comparison signs. -/
inductive Mark
  | comma
  | star
  | openParen
  | closeParen
  | equal
  | notEqual
  | less
  | greater
  | lessOrEqual
  | greaterOrEqual
deriving DecidableEq

/-- How a mark is written. -/
def Mark.text : Mark → String
  | .comma => ","
  | .star => "*"
  | .openParen => "("
  | .closeParen => ")"
  | .equal => "="
  | .notEqual => "!="
  | .less => "<"
  | .greater => ">"
  | .lessOrEqual => "<="
  | .greaterOrEqual => ">="

/-- A token of a statement. -/
inductive Token
  | keyword (word : Keyword)
  | mark (sign : Mark)
  | space
  | identifier (name : String)
  | literal (value : Literal)
  | function (name : String)
deriving DecidableEq

/-- How a token is written. A function name is written in upper case. -/
def Token.text : Token → String
  | .keyword word => word.text
  | .mark sign => sign.text
  | .space => " "
  | .identifier name => identifierText name
  | .literal value => value.sql
  | .function name => Text.uppercase name

/-- A piece of a statement. -/
abbrev Phrase := List Token

namespace Phrase

/-- The tokens of a phrase written one after the other. -/
def text : Phrase → String
  | [] => ""
  | token :: rest => token.text ++ text rest

/-- What stands between two joined phrases: a comma and a blank, or another token between blanks. -/
def gap (separator : Token) : Phrase :=
  if separator = .mark .comma then [separator, .space] else [.space, separator, .space]

/-- Phrases one after the other with a separator between them. -/
def joined (separator : Token) : List Phrase → Phrase
  | [] => []
  | [phrase] => phrase
  | phrase :: rest => phrase ++ gap separator ++ joined separator rest

/-- Phrases with commas between them. -/
def listed (phrases : List Phrase) : Phrase :=
  joined (.mark .comma) phrases

/-- A phrase between parentheses. -/
def parenthesized (phrase : Phrase) : Phrase :=
  [.mark .openParen] ++ phrase ++ [.mark .closeParen]

/-- A call of a function. -/
def call (function : String) (arguments : Phrase) : Phrase :=
  .function function :: parenthesized arguments

end Phrase

end ColumnQuery.Sql
