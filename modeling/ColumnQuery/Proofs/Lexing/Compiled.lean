import ColumnQuery.Metadata.Catalog
import ColumnQuery.Proofs.Asking
import ColumnQuery.Proofs.Condition.Written
import ColumnQuery.Proofs.Lexing.Phrases
import ColumnQuery.Proofs.Query.Reading

/-! Every statement that a query is compiled to can be taken apart again. All phrases that clauses
are made of are readable, and clauses meet only at separators. -/
namespace ColumnQuery.Lexing
open Sql Text

theorem function_lower : IsFunction "lower" :=
  ⟨by decide, by decide, by decide⟩

/-- The functions of aggregations are names that a lexer takes for functions. -/
theorem function_aggregation (kind : AggregationKind) : IsFunction kind.function := by
  cases kind <;> exact ⟨by decide, by decide, by decide⟩

/-- Parentheses around a readable phrase are readable. -/
theorem readable_parenthesized {inside : Phrase} (readable : Readable inside) :
    Readable (Phrase.parenthesized inside) := by
  simpa [Phrase.parenthesized] using readable

theorem readable_call {function : String} {arguments : Phrase} (isFunction : IsFunction function)
    (readable : Readable arguments) : Readable (Phrase.call function arguments) := by
  simpa [Phrase.call, Phrase.parenthesized, isFunction] using readable

/-- Joining phrases by a comma or a keyword puts separators between them. -/
theorem readable_joined {separator : Token} (plain : ∀ name, separator ≠ .function name)
    {phrases : List Phrase} (each : ∀ phrase ∈ phrases, Readable phrase) :
    Readable (Phrase.joined separator phrases) := by
  induction phrases with
  | nil => exact readable_nil
  | cons phrase rest ih =>
    have head := each phrase (.head _)
    have tail := ih fun other member => each other (.tail _ member)
    cases rest with
    | nil => exact head
    | cons next others =>
      rw [Phrase.joined, Phrase.gap]
      · split
        · subst separator
          simp [head, tail]
        · simp [plain, head, tail]
      · simp

theorem readable_listed {phrases : List Phrase} (each : ∀ phrase ∈ phrases, Readable phrase) :
    Readable (Phrase.listed phrases) :=
  readable_joined (by simp) each

/-! ## Conditions -/

theorem readable_values (values : List Literal) : Readable ((Predicate.values? values).getD []) := by
  match values with
  | [] => simp [Predicate.values?]
  | [value] => simp [Predicate.values?]
  | first :: second :: others =>
    refine readable_parenthesized (readable_listed fun phrase member => ?_)
    obtain ⟨value, -, rfl⟩ := List.mem_map.mp member
    simp

theorem readable_equality (column : String) (negated : Bool) (values : List Literal) :
    Readable (Predicate.equality column negated values) := by
  have right := readable_values values
  unfold Predicate.equality Predicate.equalitySign
  cases negated <;> cases values.length == 1 <;> simp [right]

/-- A match is readable, whatever its pattern. -/
theorem readable_match (column : String) (operator : Operator) (caseSensitive : Bool)
    (value : Literal) : Readable (Predicate.patternMatch column operator caseSensitive value) := by
  unfold Predicate.patternMatch Predicate.subject Phrase.call Phrase.parenthesized
  cases caseSensitive <;> cases operator.isNegated <;> simp [function_lower]

theorem readable_combined {joiner : Keyword} {phrases : List Phrase}
    (each : ∀ phrase ∈ phrases, Readable phrase) : Readable (Predicate.combined joiner phrases) := by
  unfold Predicate.combined
  split
  · exact each _ (.head _)
  · exact readable_parenthesized (readable_joined (by simp) each)

/-- Whatever is written to compare a column with values is readable. -/
theorem readable_predicate {column : String} {operator : Operator} {values : List Literal}
    {caseSensitive : Bool} {phrase : Phrase}
    (made : Predicate.onField column operator values caseSensitive = .ok phrase) :
    Readable phrase := by
  unfold Predicate.onField at made
  split at made
  · cases made
  · split at made
    · cases made
      refine readable_combined fun phrase member => ?_
      obtain ⟨value, -, rfl⟩ := List.mem_map.mp member
      exact readable_match ..
    · cases made
      exact readable_equality ..

theorem readable_group {parts : List Filter} {phrases : List Phrase} {joiner : Keyword}
    (each : List.Forall₂ (fun _ phrase => Readable phrase) parts phrases) :
    Readable (Filter.group joiner phrases) :=
  readable_parenthesized (readable_joined (by simp) (Outcome.each_value each))

/-- Every way to write a filter is readable. -/
theorem readable_closed (names : FieldNames) :
    Filter.IsClosed names fun _ phrase => Readable phrase where
  compare comparison field value found := by simp
  between field low high found := by simp
  member field values negated phrase found written := readable_predicate written
  textMatch kind field value caseSensitive phrase found written := readable_predicate written
  all parts phrases nonempty each := readable_group each
  any parts phrases nonempty each := readable_group each
  not part phrase readable := by simpa using readable

/-! ## Clauses -/

variable {names : FieldNames} {query : Query}

theorem readable_identifier {field : FieldRef} {phrase : Phrase}
    (made : Aggregation.identifier names field = .ok phrase) : Readable phrase := by
  obtain ⟨name, -, rfl⟩ := Outcome.ok_of_map (Outcome.ok_of_mapError made)
  simp

theorem readable_subject {aggregation : Aggregation} {phrase : Phrase}
    (made : aggregation.subject names = .ok phrase) : Readable phrase := by
  unfold Aggregation.subject at made
  split at made
  · cases made
    simp
  · cases made
  · exact readable_identifier made

/-- The second argument stands behind the first one without joining it. -/
theorem readable_arguments {aggregation : Aggregation} {first second : Phrase}
    (readable : Readable first) (made : aggregation.secondArgument names = .ok second) :
    Readable (first ++ second) := by
  unfold Aggregation.secondArgument at made
  split at made
  · split at made
    · cases made
    · obtain ⟨phrase, named, rfl⟩ := Outcome.ok_of_map made
      simpa [readable] using readable_identifier named
    · cases made
      simp [readable]
  · cases made
    simpa using readable

/-- An item of the selection is readable: a call, and maybe a name for it. -/
theorem readable_item {aggregation : Aggregation} {item : SelectItem}
    (made : aggregation.item names = .ok item) : Readable item.tokens := by
  obtain ⟨first, subject, made⟩ := Outcome.ok_of_bind made
  obtain ⟨second, argument, made⟩ := Outcome.ok_of_bind made
  cases made
  have call := readable_call (function_aggregation aggregation.kind)
    (readable_arguments (readable_subject subject) argument)
  simpa [SelectItem.tokens] using call

theorem readable_sort {aggregations : List Aggregation} {order : SortOrder} {item : SortItem}
    (made : Query.sortItem names aggregations order = .ok item) : Readable item.tokens := by
  obtain ⟨phrase, target, rfl⟩ := Outcome.ok_of_map made
  have readable : Readable phrase := by
    unfold Query.sortPhrase at target
    split at target
    · exact readable_identifier target
    · split at target <;> cases target
      simp
  simpa [SortItem.tokens] using readable

/-- The clause of a page is readable. -/
theorem readable_page (page : Page) : Readable page.phrase := by
  unfold Page.phrase Page.count
  split
  · exact readable_nil
  · split
    · split <;> simp
    · simp

/-- A clause begins with a space, so that it goes behind anything readable. -/
theorem readable_clause (keyword : Keyword) {before : Phrase} {items : List Phrase}
    (readable : Readable before) (each : ∀ phrase ∈ items, Readable phrase) :
    Readable (before ++ Select.clause keyword items) := by
  unfold Select.clause
  split
  · simpa using readable
  · simpa [readable] using readable_listed each

theorem readable_selection {statement : Select}
    (columns : ∀ phrase ∈ statement.columns, Readable phrase)
    (aggregations : ∀ item ∈ statement.aggregations, Readable item.tokens) :
    ∀ phrase ∈ statement.selection, Readable phrase := by
  unfold Select.selection
  split
  · exact List.forall_mem_map.mpr aggregations
  · split
    · exact columns
    · simp

/-- The clauses that there are stand one behind the other. -/
theorem readable_clauses {statement : Select}
    (columns : ∀ phrase ∈ statement.columns, Readable phrase)
    (aggregations : ∀ item ∈ statement.aggregations, Readable item.tokens)
    (condition : ∀ phrase ∈ statement.condition, Readable phrase)
    (grouping : ∀ phrase ∈ statement.grouping, Readable phrase)
    (sorting : ∀ item ∈ statement.sorting, Readable item.tokens) : Readable statement.tokens := by
  have selected := readable_listed (readable_selection columns aggregations)
  have held : ∀ phrase ∈ statement.condition?.toList, Readable phrase := by
    intro phrase member
    have kept := (Option.mem_filter_iff.mp (Option.mem_toList.mp member)).1
    exact condition phrase kept
  have sorted : ∀ phrase ∈ statement.sorting.map SortItem.tokens, Readable phrase :=
    List.forall_mem_map.mpr sorting
  have source : Readable ([.keyword .select, .space] ++ Phrase.listed statement.selection ++
      [.space, .keyword .fromSource, .space, .identifier statement.source]) := by
    simpa using selected
  have filtered := readable_clause .whereHolds source held
  have grouped := readable_clause .groupBy filtered grouping
  have before := readable_clause .orderBy grouped sorted
  unfold Select.tokens
  split
  · simpa using before
  · exact (readable_between rfl).mpr ⟨before, readable_page _⟩

/-- What a query is compiled to is readable, whichever names the table and the columns have. -/
theorem readable_statement {table : String} {statement : Select}
    (made : query.select table names = .ok statement) : Readable statement.tokens := by
  have parts := statement_made made
  refine readable_clauses (Outcome.each_of_mapM parts.columns readable_identifier)
    (Outcome.each_of_mapM parts.aggregations readable_item) ?_
    (Outcome.each_of_mapM parts.grouping readable_identifier)
    (Outcome.each_of_mapM parts.sorting readable_sort)
  intro phrase member
  obtain ⟨filter, -, written⟩ := (parts.condition phrase).mp member
  exact Filter.holds_of_written (readable_closed names) filter written

/-- Whatever answers the store gives, the text of a compiled query is read from left to right as the
tokens that its statement is made of, and as nothing else: the same names and the same strings with
their own characters, in the same places. -/
theorem compiled_text_lexes {timeout : Option Duration} {metadata : Metadata}
    {earlier : List Lookup} {native : NativeQuery}
    (compiled : (query.compile timeout metadata earlier).result = .ok native) :
    ∃ table names statement, (query.lookUp metadata earlier).result = .ok (table, names) ∧
      query.select table names = .ok statement ∧ native.statement = statement.render ∧
        lex native.statement.sql = some (statement.tokens.filterMap ofToken) := by
  obtain ⟨table, names, statement, looked, selected, rendered⟩ := Query.compiled_from compiled
  refine ⟨table, names, statement, looked, selected, rendered, ?_⟩
  rw [rendered]
  exact lex_text (readable_statement selected)

/-- A query whose names and values are full of quotes, over a catalog that names its table and one of
its columns. -/
def quotedQuery : Query where
  sourceTable := 1
  breakout := [.byId 2]
  aggregations := [⟨.count, none, none, "'n'"⟩]
  filter := some (.any [
    .compare .equal (.byName "\"") (.text "' OR ''='"),
    .textMatch .contains (.byId 2) (.text "\"it's\"") false ])
  orderBy := [⟨.aggregation 0, .descending⟩]

def quotedCatalog : Catalog where
  tables := [(1, "a\"b")]
  fields := [(2, "c\", 'd")]

/-- Quotes in the names of a table, of columns and of a result, and in the strings of the filter: the
lexer reads the tokens that were written, each text without its quotes. -/
theorem quoted_query_lexes : ∃ native,
    (quotedQuery.compile none quotedCatalog.metadata []).result = .ok native ∧
      lex native.statement.sql = some
        [ .keyword .select, .function "COUNT", .mark .openParen, .mark .star, .mark .closeParen,
          .keyword .asName, .identifier "'n'", .keyword .fromSource, .identifier "a\"b",
          .keyword .whereHolds, .mark .openParen, .identifier "\"", .mark .equal,
          .string "' OR ''='", .keyword .or, .function "LOWER", .mark .openParen,
          .identifier "c\", 'd", .mark .closeParen, .keyword .like, .string "%\"it's\"%",
          .mark .closeParen, .keyword .groupBy, .identifier "c\", 'd", .keyword .orderBy,
          .identifier "'n'", .keyword .descending ] := by
  obtain ⟨native, compiled⟩ : ∃ native,
      (quotedQuery.compile none quotedCatalog.metadata []).result = .ok native := ⟨_, rfl⟩
  obtain ⟨table, names, statement, looked, selected, -, lexed⟩ := compiled_text_lexes compiled
  cases looked
  cases selected
  exact ⟨native, compiled, lexed⟩

end ColumnQuery.Lexing
