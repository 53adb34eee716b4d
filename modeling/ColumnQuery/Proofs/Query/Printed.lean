import ColumnQuery.Proofs.Query.WellFormed

/-! Queries written as JSON maps, each clause in one shape, and the clauses read back. -/
namespace ColumnQuery
open Sql

/-! ## Clauses as JSON -/

/-- A column as a clause with its id or its name, and no options. -/
def FieldRef.toJson : FieldRef → Json
  | .byId id => .array [.string "field", .ofInt64 id, .null]
  | .byName name => .array [.string "field", .string name, .null]

/-- A literal as a scalar. A uuid or a time is the string of its text, and a double that is not finite
is null. -/
def Sql.Literal.toJson : Literal → Json
  | .null => .null
  | .text value => .string value
  | .integer value => .ofInt64 value
  | .real value => if finite : value.isFinite = true then .number (.real value finite) else .null
  | .boolean value => .bool value
  | .uuid value => .string value.text
  | .temporal value => .string value.text

/-- The sign of a comparison in a query. -/
def Comparison.sign : Comparison → String
  | .equal => "="
  | .notEqual => "!="
  | .greater => ">"
  | .less => "<"
  | .greaterOrEqual => ">="
  | .lessOrEqual => "<="

/-- The name of a match in a query. -/
def TextMatch.name : TextMatch → String
  | .contains => "contains"
  | .doesNotContain => "does-not-contain"
  | .startsWith => "starts-with"
  | .endsWith => "ends-with"

mutual

/-- A filter as a clause headed by its operator. -/
def Filter.toJson : Filter → Json
  | .compare comparison field value => .array [.string comparison.sign, field.toJson, value.toJson]
  | .between field low high => .array [.string "between", field.toJson, low.toJson, high.toJson]
  | .member field values negated =>
    .array (.string (if negated then "!=" else "=") :: field.toJson :: values.map Literal.toJson)
  | .textMatch kind field value caseSensitive =>
    .array [.string kind.name, field.toJson, value.toJson,
      .object [("case-sensitive", .bool caseSensitive)]]
  | .all parts => .array (.string "and" :: Filter.listToJson parts)
  | .any parts => .array (.string "or" :: Filter.listToJson parts)
  | .not part => .array [.string "not", part.toJson]

/-- Filters in their order. -/
def Filter.listToJson : List Filter → List Json
  | [] => []
  | part :: rest => part.toJson :: Filter.listToJson rest

end

/-- The percentile of an aggregation: a column or a number. -/
def Percentile.toJson : Percentile → Json
  | .field column => column.toJson
  | .value number => number.toJson

/-- An aggregation as a clause with its arguments, without its name. -/
def Aggregation.plainToJson (aggregation : Aggregation) : Json :=
  .array (.string aggregation.kind.word ::
    (aggregation.field.toList.map FieldRef.toJson ++
      aggregation.percentile.toList.map Percentile.toJson))

/-- An aggregation as a clause that names it. -/
def Aggregation.toJson (aggregation : Aggregation) : Json :=
  .array [.string "aggregation-options", aggregation.plainToJson,
    .object [("name", .string aggregation.resultName)]]

/-- A direction of sorting as a word. -/
def directionWord : Direction → String
  | .ascending => "asc"
  | .descending => "desc"

/-- What rows are sorted by as a clause. -/
def SortTarget.toJson : SortTarget → Json
  | .field column => column.toJson
  | .aggregation index => .array [.string "aggregation", .ofWord (.ofNat index)]

/-- A sort as a clause headed by its direction. -/
def SortOrder.toJson (order : SortOrder) : Json :=
  .array [.string (directionWord order.direction), order.target.toJson]

/-- A value that may be left out, with null in its place. -/
def Json.ofOption {α : Type} (write : α → Json) : Option α → Json
  | none => .null
  | some value => write value

/-- The members of the body of a query. -/
def Query.bodyMembers (query : Query) : List (String × Json) :=
  [ ("aggregation", .array (query.aggregations.map Aggregation.toJson)),
    ("breakout", .array (query.breakout.map FieldRef.toJson)),
    ("fields", .array (query.fields.map FieldRef.toJson)),
    ("filter", .ofOption Filter.toJson query.filter),
    ("limit", .ofOption Json.ofWord query.limit),
    ("order-by", .array (query.orderBy.map SortOrder.toJson)),
    ("page", .ofOption Json.ofWord query.page),
    ("source-table", .ofInt64 query.sourceTable) ]

/-- A query as a JSON map. -/
def Query.toJson (query : Query) : Json :=
  .object
    [ ("database", .ofOption Json.ofInt64 query.database),
      ("query", .object query.bodyMembers),
      ("type", .string "query") ]

/-! ## Reading values back -/

theorem int64_ofInt64 (n : Int64) : (Json.ofInt64 n).int64? = some n := by
  have high : n.toInt < 0x8000000000000000 := n.toInt_lt
  rw [Json.ofInt64, Json.int64?, Json.Number.int64?, if_pos high, Int64.ofInt_toInt]

theorem word_ofWord (n : UInt64) : (Json.ofWord n).word? = some n := by
  have positive : (0 : Int) ≤ n.toNat := Int.natCast_nonneg _
  rw [Json.ofWord, Json.word?, Json.Number.word?, if_pos positive, Int.toNat_natCast,
    UInt64.ofNat_toNat]

/-- A column is read back from what it is printed as. -/
theorem field_reads_back (field : FieldRef) : FieldRef.ofJson field.toJson = .ok field := by
  cases field with
  | byName name => rfl
  | byId id =>
    have read := int64_ofInt64 id
    rw [Json.ofInt64, Json.int64?] at read
    simp only [FieldRef.toJson, Json.ofInt64, FieldRef.ofJson, String.reduceEq, ↓reduceIte, read]

/-- A scalar is read back from what it is printed as. -/
theorem literal_reads_back {literal : Literal} (scalar : literal.IsScalar) :
    Literal.ofJson? literal.toJson = some literal := by
  cases literal with
  | null => rfl
  | text value => rfl
  | boolean value => rfl
  | integer value =>
    have read := int64_ofInt64 value
    rw [Json.ofInt64, Json.int64?] at read
    rw [Literal.toJson, Json.ofInt64, Literal.ofJson?, read]
  | real value =>
    have finite : value.isFinite = true := scalar
    rw [Literal.toJson, dif_pos finite]
    rfl
  | uuid value => exact scalar.elim
  | temporal value => exact scalar.elim

theorem value_reads_back {literal : Literal} (scalar : literal.IsScalar) :
    filterValueOfJson literal.toJson = .ok literal := by
  unfold filterValueOfJson
  rw [literal_reads_back scalar]

/-! ## Reading filters back -/

theorem comparison_of_sign (comparison : Comparison) :
    Comparison.ofSign? comparison.sign = some comparison := by
  cases comparison <;> rfl

theorem match_of_name (kind : TextMatch) : TextMatch.ofName? kind.name = some kind := by
  cases kind <;> rfl

theorem name_is_no_sign (kind : TextMatch) : Comparison.ofSign? kind.name = none := by
  cases kind <;> rfl

/-- The clauses that are neither groups nor ranges nor equalities. -/
theorem filter_binary {head : String} {args : List Json}
    (other : head ∉ ["and", "or", "not", "between", "=", "!="]) :
    Filter.ofJson (.array (.string head :: args)) = Filter.binaryOfJson head args := by
  simp only [List.mem_cons, List.not_mem_nil, or_false, not_or] at other
  obtain ⟨notAnd, notOr, notNot, notBetween, notEqual, notUnequal⟩ := other
  unfold Filter.ofJson
  rw [if_neg notAnd, if_neg notOr, if_neg notNot, if_neg notBetween, if_neg notEqual, if_neg notUnequal]

theorem filter_equality (negated : Bool) (args : List Json) :
    Filter.ofJson (.array (.string (if negated then "!=" else "=") :: args)) =
      Filter.equalityOfJson (if negated then "!=" else "=") negated args := by
  unfold Filter.ofJson
  cases negated <;> rfl

/-- An equality with one value is read as a comparison. -/
theorem equality_one (head : String) (negated : Bool) (field : FieldRef) {value : Literal}
    (scalar : value.IsScalar) : Filter.equalityOfJson head negated [field.toJson, value.toJson] =
      .ok (.compare (if negated then .notEqual else .equal) field value) := by
  have read : [value.toJson].mapM filterValueOfJson = .ok [value] :=
    Outcome.mapM_of_each (List.forall_mem_singleton.mpr (value_reads_back scalar))
  rw [Filter.equalityOfJson, field_reads_back, read]
  rfl

/-- An equality with several values is read as a list. -/
theorem equality_several (head : String) (negated : Bool) (field : FieldRef) {values : List Literal}
    (several : 2 ≤ values.length) (scalar : ∀ value ∈ values, value.IsScalar) :
    Filter.equalityOfJson head negated (field.toJson :: values.map Literal.toJson) =
      .ok (.member field values negated) := by
  have read : (values.map Literal.toJson).mapM filterValueOfJson = .ok values :=
    Outcome.mapM_of_each fun value member => value_reads_back (scalar value member)
  rw [Filter.equalityOfJson, field_reads_back, read]
  match values with
  | [] => simp at several
  | [value] => simp at several
  | first :: second :: others => rfl

/-- A comparison is read back. -/
theorem compare_reads_back (comparison : Comparison) (field : FieldRef) {value : Literal}
    (scalar : value.IsScalar) : Filter.ofJson (Filter.compare comparison field value).toJson =
      .ok (.compare comparison field value) := by
  rw [Filter.toJson]
  by_cases equality : comparison = .equal ∨ comparison = .notEqual
  · rcases equality with rfl | rfl
    · exact (filter_equality false _).trans (equality_one "=" false field scalar)
    · exact (filter_equality true _).trans (equality_one "!=" true field scalar)
  · have other : comparison.sign ∉ ["and", "or", "not", "between", "=", "!="] := by
      cases comparison with
      | equal => exact absurd (.inl rfl) equality
      | notEqual => exact absurd (.inr rfl) equality
      | _ => decide
    rw [filter_binary other, Filter.binaryOfJson, comparison_of_sign]
    simp only [field_reads_back, value_reads_back scalar]
    rfl

/-- A match is read back, with its options if case does not count. -/
theorem match_reads_back (kind : TextMatch) (field : FieldRef) (caseSensitive : Bool)
    {value : Literal} (scalar : value.IsScalar) :
    Filter.ofJson (Filter.textMatch kind field value caseSensitive).toJson =
      .ok (.textMatch kind field value caseSensitive) := by
  have other : kind.name ∉ ["and", "or", "not", "between", "=", "!="] := by
    cases kind <;> decide
  rw [Filter.toJson, filter_binary other, Filter.binaryOfJson, name_is_no_sign, match_of_name]
  simp only [field_reads_back, value_reads_back scalar]
  rfl

/-- An interval is read back. -/
theorem between_reads_back (field : FieldRef) {low high : Literal} (lowScalar : low.IsScalar)
    (highScalar : high.IsScalar) :
    Filter.ofJson (Filter.between field low high).toJson = .ok (.between field low high) := by
  have read : Filter.betweenOfJson [field.toJson, low.toJson, high.toJson] =
      .ok (.between field low high) := by
    rw [Filter.betweenOfJson, field_reads_back, value_reads_back lowScalar,
      value_reads_back highScalar]
    rfl
  rw [Filter.toJson]
  unfold Filter.ofJson
  exact read

theorem filters_read_back {parts : List Filter}
    (each : ∀ part ∈ parts, Filter.ofJson part.toJson = .ok part) :
    Filter.listOfJson (Filter.listToJson parts) = .ok parts := by
  induction parts with
  | nil => rfl
  | cons part rest ih =>
    obtain ⟨first, others⟩ := List.forall_mem_cons.mp each
    rw [Filter.listToJson, Filter.listOfJson, first, ih others]
    rfl

/-- A group that joins any conditions is not empty when it is written. -/
theorem group_reads_back {parts : List Filter} {group : List Filter → Filter} (fault : FilterFault)
    (nonempty : parts ≠ []) (each : ∀ part ∈ parts, Filter.ofJson part.toJson = .ok part) :
    (if (Filter.listToJson parts).isEmpty then rejectFilter fault
      else (Filter.listOfJson (Filter.listToJson parts)).map group) = .ok (group parts) := by
  cases parts with
  | nil => exact absurd rfl nonempty
  | cons part rest =>
    rw [filters_read_back each]
    rfl

/-- A well-formed filter is read back from what it was written as. -/
theorem filter_reads_back {filter : Filter} (wellFormed : filter.IsWellFormed) :
    Filter.ofJson filter.toJson = .ok filter := by
  induction wellFormed with
  | compare comparison field scalar => exact compare_reads_back comparison field scalar
  | between field low high => exact between_reads_back field low high
  | @member field negated values several scalar =>
    rw [Filter.toJson, filter_equality, equality_several _ negated field several scalar]
  | textMatch kind field caseSensitive scalar =>
    exact match_reads_back kind field caseSensitive scalar
  | all nonempty each ih =>
    rw [Filter.toJson]
    unfold Filter.ofJson
    exact group_reads_back _ nonempty ih
  | any nonempty each ih =>
    rw [Filter.toJson]
    unfold Filter.ofJson
    exact group_reads_back _ nonempty ih
  | not inner ih =>
    rw [Filter.toJson]
    unfold Filter.ofJson
    simp only [String.reduceEq, ↓reduceIte, ih]
    rfl

/-! ## Reading aggregations back -/

theorem kind_of_word (kind : AggregationKind) : AggregationKind.ofWord? kind.word = some kind := by
  cases kind <;> rfl

theorem percentile_reads_back {percentile : Percentile} (operand : percentile.IsOperand) :
    Percentile.ofJson percentile.toJson = .ok percentile := by
  cases percentile with
  | field column =>
    have read := field_reads_back column
    cases column with
    | byId id => exact congrArg (Except.map Percentile.field) read
    | byName name => exact congrArg (Except.map Percentile.field) read
  | value number =>
    have read := value_reads_back (scalar_of_number operand)
    cases number with
    | integer n => exact congrArg (Except.map Percentile.value) read
    | real x =>
      have finite : x.isFinite = true := operand
      rw [Literal.toJson, dif_pos finite] at read
      rw [Percentile.toJson, Literal.toJson, dif_pos finite]
      exact congrArg (Except.map Percentile.value) read
    | _ => exact operand.elim

theorem column_aggregation_reads_back {kind : AggregationKind} (other : kind ≠ .percentile)
    (field : FieldRef) :
    Aggregation.plainOfJson kind.word [field.toJson] = .ok (.of kind (some field)) := by
  unfold Aggregation.plainOfJson
  rw [kind_of_word]
  cases kind with
  | percentile => exact absurd rfl other
  | _ =>
    simp only [field_reads_back]
    rfl

/-- A percentile is read back, with the operand that it takes. -/
theorem percentile_aggregation_reads_back {operand : Percentile} (isOperand : operand.IsOperand)
    (field : FieldRef) :
    Aggregation.plainOfJson AggregationKind.percentile.word [field.toJson, operand.toJson] =
      .ok { Aggregation.of .percentile (some field) with percentile := some operand } := by
  unfold Aggregation.plainOfJson
  rw [kind_of_word]
  simp only [percentile_reads_back isOperand, field_reads_back]
  rfl

/-- Without its name an aggregation is read back under another. -/
theorem plain_reads_back {aggregation : Aggregation} (complete : aggregation.IsComplete) :
    ∃ name, Aggregation.ofJson aggregation.plainToJson =
      .ok { aggregation with resultName := name } := by
  obtain ⟨kind, field, percentile, resultName⟩ := aggregation
  have head : kind.word ≠ "aggregation-options" ∧ kind.word ≠ "named" := by
    cases kind <;> decide
  rw [Aggregation.plainToJson]
  unfold Aggregation.ofJson
  rw [if_neg head.1, if_neg head.2]
  cases kind with
  | count =>
    obtain rfl : percentile = none := complete
    cases field with
    | none => exact ⟨_, rfl⟩
    | some column => exact ⟨_, column_aggregation_reads_back (by simp) column⟩
  | percentile =>
    obtain ⟨hasField, operand, given, isOperand⟩ := complete
    obtain ⟨column, held⟩ := Option.isSome_iff_exists.mp hasField
    obtain rfl : field = some column := held
    obtain rfl : percentile = some operand := given
    exact ⟨_, percentile_aggregation_reads_back isOperand column⟩
  | _ =>
    obtain ⟨hasField, given⟩ := complete
    obtain ⟨column, held⟩ := Option.isSome_iff_exists.mp hasField
    obtain rfl : field = some column := held
    obtain rfl : percentile = none := given
    exact ⟨_, column_aggregation_reads_back (by simp) column⟩

/-- An aggregation under a plain name is read back with its name. -/
theorem aggregation_reads_back {aggregation : Aggregation} (complete : aggregation.IsComplete)
    (plain : Alias.IsPlain aggregation.resultName) :
    Aggregation.ofJson aggregation.toJson = .ok aggregation := by
  have name : optionsName? (.object [("name", .string aggregation.resultName)]) =
      some aggregation.resultName := rfl
  obtain ⟨other, read⟩ := plain_reads_back complete
  rw [Aggregation.toJson]
  unfold Aggregation.ofJson
  simp only [↓reduceIte, read, name, Aggregation.named, Alias.sanitize_of_plain plain]

/-- Aggregations with plain and distinct names are read back under these names. -/
theorem aggregations_read_back {aggregations : List Aggregation}
    (complete : ∀ aggregation ∈ aggregations, aggregation.IsComplete)
    (plain : ∀ aggregation ∈ aggregations, Alias.IsPlain aggregation.resultName)
    (distinct : (aggregations.map (·.resultName)).Nodup) :
    aggregationsOfJson (.array (aggregations.map Aggregation.toJson)) = .ok aggregations := by
  have read : (aggregations.map Aggregation.toJson).mapM Aggregation.ofJson = .ok aggregations :=
    Outcome.mapM_of_each fun aggregation member =>
      aggregation_reads_back (complete aggregation member) (plain aggregation member)
  have renamed := Aggregation.withDistinctAliases_of_nodup distinct
  cases aggregations with
  | nil => rfl
  | cons first others =>
    have made := congrArg (Except.map Aggregation.withDistinctAliases) read
    rw [Except.map, renamed] at made
    exact made

/-! ## Reading the other clauses back -/

theorem fields_read_back (clause : String) (fields : List FieldRef) :
    fieldsOfJson clause (.array (fields.map FieldRef.toJson)) = .ok fields :=
  Outcome.mapM_of_each fun field _ => field_reads_back field

theorem direction_of_word (direction : Direction) :
    directionOfJson (directionWord direction) = .ok direction := by
  cases direction <;> rfl

theorem sortTarget_reads_back {aggregations : Nat} {target : SortTarget}
    (within : target.IsWithin aggregations) :
    SortTarget.ofJson aggregations target.toJson = .ok target := by
  cases target with
  | field column =>
    have read := congrArg (Except.map SortTarget.field) (field_reads_back column)
    cases column with
    | byId id => exact read
    | byName name => exact read
  | aggregation index =>
    obtain ⟨small, word⟩ := within
    have same : (UInt64.ofNat index).toNat = index := UInt64.toNat_ofNat_of_lt' word
    rw [SortTarget.toJson, SortTarget.ofJson]
    simp only [word_ofWord, same, small, ↓reduceIte]

theorem sortOrder_reads_back {aggregations : Nat} {order : SortOrder}
    (within : order.target.IsWithin aggregations) :
    SortOrder.ofJson aggregations order.toJson = .ok order := by
  rw [SortOrder.toJson, SortOrder.ofJson]
  simp only [direction_of_word, sortTarget_reads_back within]
  rfl

/-- Sort orders are read back when they point at aggregations that there are. -/
theorem sortOrders_read_back {aggregations : Nat} {orders : List SortOrder}
    (within : ∀ order ∈ orders, order.target.IsWithin aggregations) :
    sortOrdersOfJson aggregations (.array (orders.map SortOrder.toJson)) = .ok orders :=
  Outcome.mapM_of_each fun order member => sortOrder_reads_back (within order member)

theorem count_reads_back (name : String) (count : Option UInt64) :
    countOfJson name (some (.ofOption Json.ofWord count)) = .ok count := by
  cases count with
  | none => rfl
  | some n =>
    have read := word_ofWord n
    rw [Json.ofWord] at read
    simp only [Json.ofOption, Json.ofWord, countOfJson, read]

/-- A limit and a page are read back when the page is counted from one. -/
theorem page_reads_back {page : Option UInt64} (limit : Option UInt64)
    (positive : ∀ number ∈ page, 1 ≤ number) :
    pageOfJson (some (.ofOption Json.ofWord page)) limit = .ok (limit, page) := by
  cases page with
  | none => rfl
  | some number =>
    have read : pageNumberOfJson (some (.ofWord number)) = .ok number := by
      rw [pageNumberOfJson, Option.bind_some, word_ofWord]
      exact if_pos (positive number rfl)
    exact congrArg (Except.map fun page => (limit, some page)) read

/-! ## Reading queries back -/

theorem filter_is_list (filter : Filter) : ∃ items, filter.toJson = .array items := by
  cases filter <;> exact ⟨_, rfl⟩

/-- The filter is read back, and so is its absence. -/
theorem condition_reads_back {condition : Option Filter}
    (wellFormed : ∀ filter ∈ condition, filter.IsWellFormed) :
    clauseOfJson (some (.ofOption Filter.toJson condition)) none (fun
      | .null => .ok none
      | value => (Filter.ofJson value).map some) = .ok condition := by
  cases condition with
  | none => rfl
  | some filter =>
    have read := congrArg (Except.map some) (filter_reads_back (wellFormed filter rfl))
    obtain ⟨items, listed⟩ := filter_is_list filter
    rw [listed] at read
    rw [Json.ofOption, listed]
    exact read

/-- The body of a query that is well formed is read back from its members. -/
theorem body_reads_back {query : Query} (wellFormed : query.IsWellFormed) :
    Query.ofBody query.database query.bodyMembers = .ok query := by
  have table : (Keyed.find? query.bodyMembers "source-table").bind Json.int64? =
      some query.sourceTable := int64_ofInt64 query.sourceTable
  have fields : clauseOfJson (Keyed.find? query.bodyMembers "fields") [] (fieldsOfJson "fields") =
      .ok query.fields := fields_read_back "fields" query.fields
  have breakout : clauseOfJson (Keyed.find? query.bodyMembers "breakout") []
      (fieldsOfJson "breakout") = .ok query.breakout := fields_read_back "breakout" query.breakout
  have aggregations : clauseOfJson (Keyed.find? query.bodyMembers "aggregation") []
      aggregationsOfJson = .ok query.aggregations :=
    aggregations_read_back wellFormed.complete wellFormed.plain wellFormed.distinct
  have orderBy : clauseOfJson (Keyed.find? query.bodyMembers "order-by") []
      (sortOrdersOfJson query.aggregations.length) = .ok query.orderBy :=
    sortOrders_read_back wellFormed.within
  have limit : countOfJson "limit" (Keyed.find? query.bodyMembers "limit") = .ok query.limit :=
    count_reads_back "limit" query.limit
  have page : pageOfJson (Keyed.find? query.bodyMembers "page") query.limit =
      .ok (query.limit, query.page) := page_reads_back query.limit wellFormed.page_positive
  have filter := condition_reads_back wellFormed.condition
  unfold Query.ofBody
  dsimp only
  rw [table]
  refine (Outcome.bind_of_ok _ fields).trans ?_
  refine (Outcome.bind_of_ok _ breakout).trans ?_
  refine (Outcome.bind_of_ok _ aggregations).trans ?_
  refine (Outcome.bind_of_ok _ filter).trans ?_
  refine (Outcome.bind_of_ok _ orderBy).trans ?_
  refine (Outcome.bind_of_ok _ limit).trans ?_
  exact Outcome.bind_of_ok _ page

/-- A well-formed query is read back from what it was written as. -/
theorem query_reads_back {query : Query} (wellFormed : query.IsWellFormed) :
    Query.ofJson query.toJson = .ok query := by
  have database : (Json.ofOption Json.ofInt64 query.database).int64? = query.database := by
    cases query.database with
    | none => rfl
    | some id => exact int64_ofInt64 id
  have body := body_reads_back wellFormed
  rw [← database] at body
  exact body

namespace Query

/-- The queries that can be read are the well-formed ones, and each is read back from what it is
written as. -/
theorem reading_inverts_printing (query : Query) :
    ((∃ value, Query.ofJson value = .ok query) ↔ query.IsWellFormed) ∧
      (query.IsWellFormed → Query.ofJson query.toJson = .ok query) := by
  refine ⟨⟨?_, ?_⟩, query_reads_back⟩
  · rintro ⟨value, made⟩
    exact query_isWellFormed made
  · intro wellFormed
    exact ⟨query.toJson, query_reads_back wellFormed⟩

/-- A query map with clauses in other shapes than those that are written, and with names that are
neither plain nor distinct. -/
def looseMap : Json :=
  .object
    [ ("query", .object
        [ ("aggregation", .array
            [ .array [.string "aggregation-options", .array [.string "sum", .ofInt64 2],
                .object [("display-name", .string " Total sales! ")]],
              .array [.string "count"],
              .array [.string "named",
                .array [.string "percentile", .ofInt64 3, .array [.string "field-id", .ofInt64 4]],
                .string "count"] ]),
          ("filter", .array [.string "and", .array [.string "!=", .ofInt64 4, .string "a",
            .array [.string "value", .bool true]]]),
          ("order-by", .array [.array [.string "desc", .array [.string "aggregation", .ofWord 2]]]),
          ("page", .object [("items", .ofWord 25), ("page", .ofWord 3)]),
          ("source-table", .ofInt64 5) ]) ]

/-- The query that is read from it. -/
def looseQuery : Query where
  sourceTable := 5
  aggregations :=
    [ ⟨.sum, some (.byId 2), none, "Total_sales"⟩, ⟨.count, none, none, "count"⟩,
      ⟨.percentile, some (.byId 3), some (.field (.byId 4)), "count_2"⟩ ]
  filter := some (.all [.member (.byId 4) [.text "a", .boolean true] true])
  orderBy := [⟨.aggregation 2, .descending⟩]
  limit := some 25
  page := some 3

/-- A map with clauses in short forms: what is read is well formed, and is read again from what it is
printed as. -/
theorem loose_query_reads_back :
    Query.ofJson looseMap = .ok looseQuery ∧ looseQuery.IsWellFormed ∧
      Query.ofJson looseQuery.toJson = .ok looseQuery := by
  have read : Query.ofJson looseMap = .ok looseQuery := by rfl
  obtain ⟨readable, reads⟩ := reading_inverts_printing looseQuery
  have wellFormed : looseQuery.IsWellFormed := readable.mp ⟨looseMap, read⟩
  exact ⟨read, wellFormed, reads wellFormed⟩

end Query

end ColumnQuery
