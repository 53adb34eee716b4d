import ColumnQuery.Proofs.Lexing.Compiled
import ColumnQuery.Proofs.Query.ResultNames

/-! What rows are sorted by, as it is written. A column and the result of an aggregation are both written
as a quoted name, and nothing but the name tells which of them is meant. Results have distinct names, but
no name of a result is ever compared with the names of columns: a statement may sort by a column and by a
result of the same name, and then the two items look alike. -/
namespace ColumnQuery
open Sql

/-- The name that a target is written as: what was found for a column, and the name of the result of an
aggregation. -/
inductive SortTarget.IsNamed (aggregations : List Aggregation) (names : FieldNames) :
    SortTarget → String → Prop
  | field {field : FieldRef} {name : String} (found : names.nameOf field = .ok name) :
      IsNamed aggregations names (.field field) name
  | aggregation {index : Nat} {aggregation : Aggregation} (held : aggregations[index]? = some aggregation) :
      IsNamed aggregations names (.aggregation index) aggregation.resultName

/-- An item that rows are sorted by: a quoted name and a direction. -/
def sortText (name : String) (direction : Direction) : String :=
  identifierText name ++ " " ++ direction.keyword.text

/-- An item is written as the name of its target with its direction. -/
def SortOrder.IsWrittenAs (aggregations : List Aggregation) (names : FieldNames) (order : SortOrder)
    (text : String) : Prop :=
  ∃ name, order.target.IsNamed aggregations names name ∧ text = sortText name order.direction

/-! ## Quoted names -/

/-- Quoting loses nothing of a name. -/
theorem identifierText_inj {first second : String} :
    identifierText first = identifierText second ↔ first = second := by
  refine ⟨fun same => ?_, fun same => same ▸ rfl⟩
  have texts : Phrase.text [.identifier first] = Phrase.text [.identifier second] :=
    congrArg (· ++ "") same
  have lexemes := Lexing.lexemes_of_text (by simp) (by simp) texts
  exact Lexing.Lexeme.identifier.inj (List.cons.inj lexemes).1

/-- The text of an item can be taken apart into its name and its direction. -/
theorem sortText_inj {first second : String} {way other : Direction} :
    sortText first way = sortText second other ↔ first = second ∧ way = other := by
  refine ⟨fun same => ?_, fun ⟨name, direction⟩ => name ▸ direction ▸ rfl⟩
  have written (name : String) (direction : Direction) :
      Phrase.text [.identifier name, .space, .keyword direction.keyword] = sortText name direction := by
    simp [sortText, Token.text, String.append_assoc]
  rw [← written, ← written] at same
  have lexemes := Lexing.lexemes_of_text (by simp) (by simp) same
  obtain ⟨sameName, rest⟩ := List.cons.inj lexemes
  have sameWord := Lexing.Lexeme.keyword.inj (List.cons.inj rest).1
  refine ⟨Lexing.Lexeme.identifier.inj sameName, ?_⟩
  cases way <;> cases other <;> first | rfl | cases sameWord

/-! ## Items -/

variable {names : FieldNames} {aggregations : List Aggregation}

/-- An item that rows are sorted by is written as a name and a direction. -/
theorem sortItem_written {order : SortOrder} {item : SortItem}
    (made : Query.sortItem names aggregations order = .ok item) :
    order.IsWrittenAs aggregations names (Phrase.text item.tokens) := by
  obtain ⟨phrase, target, rfl⟩ := Outcome.ok_of_map made
  obtain ⟨name, named, rfl⟩ : ∃ name, order.target.IsNamed aggregations names name ∧
      phrase = [.identifier name] := by
    cases aim : order.target with
    | field field =>
      rw [aim] at target
      obtain ⟨name, found, rfl⟩ := Aggregation.identifier_found target
      exact ⟨name, .field found, rfl⟩
    | aggregation index =>
      rw [aim, Query.sortPhrase] at target
      cases held : aggregations[index]? with
      | none =>
        rw [held] at target
        cases target
      | some aggregation =>
        rw [held] at target
        cases target
        exact ⟨aggregation.resultName, .aggregation held, rfl⟩
  exact ⟨name, named, by simp [sortText, SortItem.tokens, Token.text, String.append_assoc]⟩

theorem written_at {orders : List SortOrder} {texts : List String} {i : Nat} {order : SortOrder}
    (written : List.Forall₂ (SortOrder.IsWrittenAs aggregations names) orders texts)
    (held : orders[i]? = some order) :
    ∃ name, order.target.IsNamed aggregations names name ∧
      texts[i]? = some (sortText name order.direction) := by
  induction written generalizing i with
  | nil => cases held
  | cons head tail ih =>
    cases i with
    | zero =>
      cases held
      obtain ⟨name, named, rfl⟩ := head
      exact ⟨name, named, rfl⟩
    | succ i => exact ih held

/-- Whatever store a query map is compiled over, each item that it sorts by is written as the quoted name
of its target with its direction. An item for a column and an item for the result of an aggregation are
written with the same identifier exactly when the column has the name of that result, which is a plain
name. The results of two aggregations are never written with the same identifier. -/
theorem sort_targets_share_only_names {value : Json} {timeout : Option Duration} {metadata : Metadata}
    {earlier : List Lookup} {native : NativeQuery}
    (compiled : (Query.compileJson value timeout metadata earlier).result = .ok native) :
    ∃ query table names, Query.ofJson value = .ok query ∧
      (query.lookUp metadata earlier).result = .ok (table, names) ∧
      List.Forall₂ (SortOrder.IsWrittenAs query.aggregations names) query.orderBy
        native.statement.sorting ∧
      (∀ (i j index : Nat) (field : FieldRef) (way other : Direction),
        query.orderBy[i]? = some ⟨.field field, way⟩ →
        query.orderBy[j]? = some ⟨.aggregation index, other⟩ → ∃ column aggregation,
          names.nameOf field = .ok column ∧ query.aggregations[index]? = some aggregation ∧
          native.statement.sorting[i]? = some (sortText column way) ∧
          native.statement.sorting[j]? = some (sortText aggregation.resultName other) ∧
          (identifierText column = identifierText aggregation.resultName ↔
            column = aggregation.resultName) ∧
          (native.statement.sorting[i]? = native.statement.sorting[j]? ↔
            column = aggregation.resultName ∧ way = other) ∧
          Alias.IsPlain aggregation.resultName) ∧
      ∀ (i j : Nat) (first second : Aggregation), query.aggregations[i]? = some first →
        query.aggregations[j]? = some second →
        identifierText first.resultName = identifierText second.resultName → i = j := by
  obtain ⟨query, read, compiled⟩ := Query.compiled_as_read compiled
  obtain ⟨table, names, statement, looked, selected, rendered⟩ := Query.compiled_from compiled
  have wellFormed := query_isWellFormed read
  have items := Outcome.ok_of_mapM (statement_made selected).sorting
  have written : List.Forall₂ (SortOrder.IsWrittenAs query.aggregations names) query.orderBy
      native.statement.sorting := by
    rw [rendered, Select.render, List.forall₂_map_right_iff]
    exact items.imp fun _ _ item => sortItem_written item
  refine ⟨query, table, names, read, looked, written, ?_, ?_⟩
  · intro i j index field way other here there
    obtain ⟨column, named, text⟩ := written_at written here
    obtain ⟨result, called, otherText⟩ := written_at written there
    cases named with
    | field nameFound =>
      cases called with
      | @aggregation _ aggregation held =>
        refine ⟨column, aggregation, nameFound, held, text, otherText, identifierText_inj, ?_,
          wellFormed.plain aggregation (List.mem_of_getElem? held)⟩
        rw [text, otherText, Option.some.injEq]
        exact sortText_inj
  · intro i j first second here there same
    have sameName := identifierText_inj.mp same
    have nameAt {k : Nat} {aggregation : Aggregation} (held : query.aggregations[k]? = some aggregation) :
        (query.aggregations.map (·.resultName))[k]? = some aggregation.resultName := by
      rw [List.getElem?_map, held]
      rfl
    exact (List.getElem?_inj (List.getElem?_eq_some_iff.mp (nameAt here)).1 wellFormed.distinct).mp
      ((nameAt here).trans (sameName ▸ (nameAt there).symm))

/-- A query map that sums prices, and sorts by a column of some name and then by the sum. -/
def sortedMap (column : String) : Json :=
  .object
    [ ("query", .object
        [ ("aggregation", .array
            [.array [.string "sum", .array [.string "field", .string "price", .null]]]),
          ("order-by", .array
            [ .array [.string "asc", .array [.string "field", .string column, .null]],
              .array [.string "asc", .array [.string "aggregation", .ofWord 0]] ]),
          ("source-table", .ofInt64 1) ]) ]

def sortedCatalog : Catalog where
  tables := [(1, "t")]
  fields := []

/-- The names `sum` and `SUM` are told apart. -/
theorem sorted_map_tells_targets_apart : ∃ native,
    (Query.compileJson (sortedMap "SUM") none sortedCatalog.metadata []).result = .ok native ∧
      native.statement.sorting = ["\"SUM\" ASC", "\"sum\" ASC"] ∧
      ∃ query table names, Query.ofJson (sortedMap "SUM") = .ok query ∧
        (query.lookUp sortedCatalog.metadata []).result = .ok (table, names) ∧
        List.Forall₂ (SortOrder.IsWrittenAs query.aggregations names) query.orderBy
          native.statement.sorting := by
  obtain ⟨native, compiled⟩ : ∃ native,
      (Query.compileJson (sortedMap "SUM") none sortedCatalog.metadata []).result = .ok native :=
    ⟨_, rfl⟩
  obtain ⟨query, table, names, read, looked, written, -⟩ := sort_targets_share_only_names compiled
  refine ⟨native, compiled, ?_, query, table, names, read, looked, written⟩
  cases compiled
  decide +kernel

/-- A column named `sum` and a sum of prices are sorted by in one statement, and written alike. -/
theorem column_sorts_like_result : ∃ query native,
    Query.ofJson (sortedMap "sum") = .ok query ∧
      query.orderBy = [⟨.field (.byName "sum"), .ascending⟩, ⟨.aggregation 0, .ascending⟩] ∧
      (Query.compileJson (sortedMap "sum") none sortedCatalog.metadata []).result = .ok native ∧
      native.statement.sorting = ["\"sum\" ASC", "\"sum\" ASC"] := by
  obtain ⟨query, read⟩ : ∃ query, Query.ofJson (sortedMap "sum") = .ok query := ⟨_, rfl⟩
  obtain ⟨native, compiled⟩ : ∃ native,
      (Query.compileJson (sortedMap "sum") none sortedCatalog.metadata []).result = .ok native :=
    ⟨_, rfl⟩
  refine ⟨query, native, read, ?_, compiled, ?_⟩
  · cases read
    rfl
  · cases compiled
    decide +kernel

end ColumnQuery
