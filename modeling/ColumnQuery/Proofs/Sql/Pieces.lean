import ColumnQuery.Sql.Select
import Mathlib.Data.String.Basic

/-! The pieces of a rendered statement and its text. The text is made from one list of tokens, and each
piece from tokens of its own, so that nothing ties them together but the statement they come from. Here
the text is put together again from the pieces alone, which is how a reader of the pieces sees it. -/
namespace ColumnQuery.Sql

namespace Rendered

/-- What is selected: the aggregations, or without any the columns, or without any everything. -/
def selection (pieces : Rendered) : String :=
  if pieces.aggregations ≠ [] then ", ".intercalate pieces.aggregations
  else if pieces.columns ≠ [] then ", ".intercalate pieces.columns
  else "*"

/-- Pieces with commas between them behind the words that open their clause, and without any nothing. -/
def listed (opening : String) (pieces : List String) : String :=
  if pieces = [] then "" else opening ++ ", ".intercalate pieces

/-- A row count as it is written. It ends at the largest signed word. -/
def countText (rows : UInt64) : String :=
  toString (min rows.toNat 0x7fffffffffffffff)

/-- The rows to skip with a comma behind them. None to skip are left out. -/
def skipped : Option UInt64 → String
  | some offset => if 0 < offset then countText offset ++ ", " else ""
  | none => ""

/-- A statement put together from its pieces. -/
def assembled (pieces : Rendered) : String :=
  "SELECT " ++ pieces.selection ++ (" FROM " ++ identifierText pieces.source) ++
    (match pieces.condition with
      | some condition => " WHERE " ++ condition
      | none => "") ++
    listed " GROUP BY " pieces.grouping ++ listed " ORDER BY " pieces.sorting ++
    (match pieces.limit with
      | some limit => " LIMIT " ++ skipped pieces.offset ++ countText limit
      | none => "")

end Rendered

/-! ## Texts of phrases -/

namespace Phrase

@[simp] theorem text_nil : text [] = "" :=
  rfl

@[simp] theorem text_cons (token : Token) (rest : Phrase) :
    text (token :: rest) = token.text ++ text rest :=
  rfl

@[simp] theorem text_append (first second : Phrase) :
    text (first ++ second) = text first ++ text second := by
  induction first with
  | nil => rw [List.nil_append, text_nil, String.empty_append]
  | cons token rest ih => rw [List.cons_append, text_cons, ih, text_cons, String.append_assoc]

/-- Phrases that are joined as tokens are joined as texts, whichever of them are empty. -/
theorem text_listed (phrases : List Phrase) :
    text (listed phrases) = ", ".intercalate (phrases.map text) := by
  induction phrases with
  | nil => rfl
  | cons phrase rest ih =>
    cases rest with
    | nil => rw [listed, joined, List.map_singleton, String.intercalate_singleton]
    | cons next others =>
      have comma : text (gap (.mark .comma)) = ", " := rfl
      calc text (listed (phrase :: next :: others))
          = text phrase ++ ", " ++ text (listed (next :: others)) := by
            rw [listed, joined, text_append, text_append, comma, listed]
            simp
        _ = text phrase ++ ", " ++ ", ".intercalate ((next :: others).map text) := by rw [ih]
        _ = ", ".intercalate ((phrase :: next :: others).map text) :=
            String.intercalate_cons_cons.symm

end Phrase

/-! ## Texts of clauses -/

/-- A clause is its keyword and then its items with commas between them; without items there is none. -/
theorem text_clause (keyword : Keyword) (items : List Phrase) :
    Phrase.text (Select.clause keyword items) =
      Rendered.listed (" " ++ (keyword.text ++ " ")) (items.map Phrase.text) := by
  cases items with
  | nil => rfl
  | cons item rest =>
    rw [Select.clause, Rendered.listed, if_neg (by simp), if_neg (by simp), Phrase.text_append,
      Phrase.text_listed]
    simp [Token.text]

/-- A row count is written as the number of rows, as far as a signed word goes. -/
theorem text_count (rows : UInt64) : (Page.count rows).text = Rendered.countText rows := by
  have within : min rows.toNat 0x7fffffffffffffff < 2 ^ 63 := by omega
  rw [Page.count, Token.text, Literal.sql, Int64.toInt_ofNat_of_lt within]
  rfl

/-- The rows to skip stand before the rows to return. -/
theorem phrase_limited (limit : UInt64) (offset : Option UInt64) :
    ∃ rows, Page.phrase ⟨some limit, offset⟩ = [.keyword .limit, .space] ++ rows ∧
      Phrase.text rows = Rendered.skipped offset ++ Rendered.countText limit := by
  refine ⟨_, rfl, ?_⟩
  cases offset with
  | none => simp [Rendered.skipped, text_count]
  | some offset =>
    have comma : Phrase.text [.mark .comma, .space] = ", " := rfl
    rw [Rendered.skipped]
    by_cases positive : 0 < offset
    · simp only [if_pos positive, ← comma, Phrase.text_cons, Phrase.text_nil, text_count,
        String.append_assoc, String.append_empty]
    · simp only [if_neg positive, Phrase.text_cons, Phrase.text_nil, text_count,
        String.append_empty, String.empty_append]

/-- The clause of a page is there exactly when there is a limit. -/
theorem text_page (page : Page) :
    Phrase.text (if page.phrase.isEmpty then [] else .space :: page.phrase) =
      match page.limit with
      | some limit => " LIMIT " ++ Rendered.skipped page.offset ++ Rendered.countText limit
      | none => "" := by
  obtain ⟨limit, offset⟩ := page
  cases limit with
  | none => rfl
  | some limit =>
    have opening : Phrase.text [.space, .keyword .limit, .space] = " LIMIT " := rfl
    obtain ⟨rows, shape, written⟩ := phrase_limited limit offset
    rw [shape, if_neg (by simp), ← List.cons_append, Phrase.text_append, opening, written]
    exact String.append_assoc.symm

theorem text_selection (statement : Select) :
    Phrase.text (Phrase.listed statement.selection) = statement.render.selection := by
  have aggregated : statement.render.aggregations ≠ [] ↔ statement.aggregations ≠ [] :=
    not_congr List.map_eq_nil_iff
  have plain : statement.render.columns ≠ [] ↔ statement.columns ≠ [] :=
    not_congr List.map_eq_nil_iff
  simp only [Phrase.text_listed, Select.selection, Rendered.selection, aggregated, plain]
  split
  · rw [List.map_map]
    rfl
  · split <;> rfl

namespace Select

theorem text_source (statement : Select) :
    Phrase.text [.space, .keyword .fromSource, .space, .identifier statement.source] =
      " FROM " ++ identifierText statement.render.source := by
  have between : Phrase.text [.space, .keyword .fromSource, .space] = " FROM " := rfl
  have whole := Phrase.text_append [.space, .keyword .fromSource, .space]
    [.identifier statement.source]
  rw [between, Phrase.text_cons, Phrase.text_nil, String.append_empty] at whole
  exact whole

theorem text_condition (statement : Select) :
    Phrase.text (clause .whereHolds statement.condition?.toList) =
      match statement.render.condition with
      | some condition => " WHERE " ++ condition
      | none => "" := by
  rw [text_clause, render]
  cases statement.condition? with
  | none => rfl
  | some phrase => rfl

/-- The text of a statement is made up of the texts of its pieces, with the keyword of a clause where
there is a piece of it, and of nothing else. -/
theorem sql_is_assembled_from_pieces (statement : Select) :
    statement.render.sql = statement.render.assembled := by
  have grouping : Phrase.text (clause .groupBy statement.grouping) =
      Rendered.listed " GROUP BY " statement.render.grouping := text_clause .groupBy _
  have sorting : Phrase.text (clause .orderBy (statement.sorting.map SortItem.tokens)) =
      Rendered.listed " ORDER BY " statement.render.sorting := by
    rw [text_clause, List.map_map]
    rfl
  have opening : Phrase.text [.keyword .select, .space] = "SELECT " := rfl
  have paging := text_page statement.page
  change Phrase.text statement.tokens = _
  simp only [tokens, Phrase.text_append, opening, text_selection, text_source, text_condition,
    grouping, sorting, paging]
  rfl

/-- A column without tokens keeps its place, and a condition without tokens has none. A limit that is no
signed word is written as the largest one. -/
example : (render
    { source := "t"
      columns := [[.identifier "a"], []]
      condition := some []
      page := ⟨some 0xffffffffffffffff, some 3⟩ }).sql =
    "SELECT \"a\",  FROM \"t\" LIMIT 3, 9223372036854775807" := rfl

end Select

end ColumnQuery.Sql
