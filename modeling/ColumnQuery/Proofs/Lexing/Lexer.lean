import ColumnQuery.Proofs.Decimal.Spelling
import ColumnQuery.Sql.Token
import ColumnQuery.Text.Remainder

/-! A lexer for the text of statements. It reads from left to right: names between double quotes and
strings between single quotes, in both of which a doubled quote is one quote character; numbers,
words and marks, each as long as the characters go on; and spaces, which it skips. It knows nothing
of how a text was made. -/
namespace ColumnQuery.Lexing
open Sql Text

/-- What a statement is found to consist of. Numbers are compared by their text. -/
inductive Lexeme
  | keyword (word : Keyword)
  | mark (sign : Mark)
  | identifier (name : String)
  | string (text : String)
  | number (text : String)
  | boolean (value : Bool)
  | null
  | function (name : String)
deriving DecidableEq

/-- A stretch of the text. What a word means may depend on the word after it. -/
inductive Piece
  | word (text : String)
  | whole (lexeme : Lexeme)
deriving DecidableEq

/-- Reads up to the quote that ends a quoted text, and undoes the doubling of quotes before it. -/
def closeQuote (quote : Char) (cs : List Char) : Option (List Char × Remainder cs) :=
  match cs with
  | [] => none
  | [c] => if c = quote then some ([], ⟨[], Nat.zero_le _⟩) else none
  | c :: next :: rest =>
    if c = quote then
      if next = quote then
        (closeQuote quote rest).map fun (text, after) =>
          (quote :: text, ⟨after.1, by have := after.2; simp; omega⟩)
      else some ([], ⟨next :: rest, Nat.le_succ _⟩)
    else
      (closeQuote quote (next :: rest)).map fun (text, after) =>
        (c :: text, ⟨after.1, Nat.le_succ_of_le after.2⟩)

/-- The characters of a word after its first, which is a letter. -/
def isWordChar (c : Char) : Bool :=
  c.isAlphanum || c == '_'

/-- Reads a mark, the longer of two that begin alike. -/
def readMark (c : Char) (rest : List Char) : Option (Mark × Remainder rest) :=
  let alone (sign : Mark) : Mark × Remainder rest := (sign, .all rest)
  let doubled (sign : Mark) : Mark × Remainder rest := (sign, .drop 1 rest)
  let equals := rest.head? = some '='
  match c with
  | ',' => some (alone .comma)
  | '*' => some (alone .star)
  | '(' => some (alone .openParen)
  | ')' => some (alone .closeParen)
  | '=' => some (alone .equal)
  | '!' => if equals then some (doubled .notEqual) else none
  | '<' => some (if equals then doubled .lessOrEqual else alone .less)
  | '>' => some (if equals then doubled .greaterOrEqual else alone .greater)
  | _ => none

/-- Reads the piece that begins with a character. -/
def readPiece (c : Char) (rest : List Char) : Option (Piece × Remainder rest) :=
  if c = '"' then
    (closeQuote c rest).map fun (name, after) =>
      (.whole (.identifier (String.ofList name)), after)
  else if c = '\'' then
    (closeQuote c rest).map fun (text, after) => (.whole (.string (String.ofList text)), after)
  else if Decimal.startsNumber c rest then
    some (.whole (.number (String.ofList (c :: rest.takeWhile Decimal.isNumberChar))),
      .skip Decimal.isNumberChar rest)
  else if c.isAlpha then
    some (.word (String.ofList (c :: rest.takeWhile isWordChar)), .skip isWordChar rest)
  else (readMark c rest).map fun (sign, after) => (.whole (.mark sign), after)

/-- Reads a text piece by piece. A character that begins no piece, and a quote that is never closed,
is a failure of the whole. -/
def readPieces (cs : List Char) : Option (List Piece) :=
  match cs with
  | [] => some []
  | c :: rest =>
    if c = ' ' then readPieces rest
    else
      match readPiece c rest with
      | none => none
      | some (piece, after) => (readPieces after.1).map (piece :: ·)
termination_by cs.length
decreasing_by
  · exact Nat.lt_succ_self _
  · exact Nat.lt_succ_of_le after.2

/-- What a word stands for by itself: a keyword, a constant, or otherwise a function. -/
def ofWord : String → Lexeme
  | "SELECT" => .keyword .select
  | "FROM" => .keyword .fromSource
  | "WHERE" => .keyword .whereHolds
  | "AND" => .keyword .and
  | "OR" => .keyword .or
  | "NOT" => .keyword .not
  | "AS" => .keyword .asName
  | "ASC" => .keyword .ascending
  | "DESC" => .keyword .descending
  | "LIMIT" => .keyword .limit
  | "IN" => .keyword .inList
  | "BETWEEN" => .keyword .between
  | "LIKE" => .keyword .like
  | "TRUE" => .boolean true
  | "FALSE" => .boolean false
  | "NULL" => .null
  | name => .function name

/-- Gives every word its meaning. Two keywords are made of two words. -/
def classify : List Piece → List Lexeme
  | [] => []
  | .word "GROUP" :: .word "BY" :: rest => .keyword .groupBy :: classify rest
  | .word "ORDER" :: .word "BY" :: rest => .keyword .orderBy :: classify rest
  | .word text :: rest => ofWord text :: classify rest
  | .whole lexeme :: rest => lexeme :: classify rest

/-- The lexemes of a text. -/
def lex (text : String) : Option (List Lexeme) :=
  (readPieces text.toList).map classify

example : lex "a <= -1.5e-3 AND \"it\"\"s\" = 'O''Brien'" = some
    [ .function "a", .mark .lessOrEqual, .number "-1.5e-3", .keyword .and, .identifier "it\"s",
      .mark .equal, .string "O'Brien" ] := by
  cbv

end ColumnQuery.Lexing
