import ColumnQuery.Proofs.Query.Lookups
import ColumnQuery.Proofs.Query.WellFormed

/-! Why a query over known columns does not compile. What a query lacks is listed clause by clause, in
the order in which the clauses are built, and the first of the list is what is reported. A query that
was read lacks nothing but values to search for. -/
namespace ColumnQuery
open Sql

/-! ## Faults of a filter -/

namespace Filter

mutual

/-- The conditions that a filter is made of, depth first and from left to right, each one before its
parts. -/
def nodes : Filter → List Filter
  | .compare comparison field value => [.compare comparison field value]
  | .between field low high => [.between field low high]
  | .member field values negated => [.member field values negated]
  | .textMatch kind field value caseSensitive => [.textMatch kind field value caseSensitive]
  | .all parts => .all parts :: nodesOfAll parts
  | .any parts => .any parts :: nodesOfAll parts
  | .not part => .not part :: part.nodes

/-- The conditions of several filters in their order. -/
def nodesOfAll : List Filter → List Filter
  | [] => []
  | part :: rest => part.nodes ++ nodesOfAll rest

end

theorem nodesOfAll_eq (parts : List Filter) : nodesOfAll parts = parts.flatMap nodes := by
  induction parts with
  | nil => rfl
  | cons part rest ih => rw [nodesOfAll, List.flatMap_cons, ih]

/-- The word for a group that joins nothing. -/
def emptyGroup? : Filter → Option String
  | .all [] => some "and"
  | .any [] => some "or"
  | _ => none

theorem emptyGroup_of_parts {parts : List Filter} (nonempty : parts ≠ []) :
    (all parts).emptyGroup? = none ∧ (any parts).emptyGroup? = none := by
  cases parts with
  | nil => exact absurd rfl nonempty
  | cons part rest => exact ⟨rfl, rfl⟩

/-- The column of a search that has no value to search for. -/
def valueless? : Filter → Option FieldRef
  | .member field values _ => if values.all Literal.isNull then some field else none
  | .textMatch _ field value _ => if value.isNull then some field else none
  | _ => none

/-- What a condition lacks itself, apart from its parts. -/
def fault? (name : Int64 → String) (node : Filter) : Option CompileError :=
  (node.emptyGroup?.map fun word => .malformedFilter (.noClause word)).or
    (node.valueless?.map fun field => .missingFilterValue (field.under name))

/-- What the conditions of a filter lack, in their order. -/
def faults (name : Int64 → String) (filter : Filter) : List CompileError :=
  filter.nodes.filterMap (fault? name)

/-- The faults of a conjunction: that it is empty, and then those of its parts in order. -/
theorem faults_all (name : Int64 → String) (parts : List Filter) : (all parts).faults name =
    (if parts.isEmpty then [.malformedFilter (.noClause "and")] else []) ++
      (nodesOfAll parts).filterMap (fault? name) := by
  cases parts <;> rfl

theorem faults_any (name : Int64 → String) (parts : List Filter) : (any parts).faults name =
    (if parts.isEmpty then [.malformedFilter (.noClause "or")] else []) ++
      (nodesOfAll parts).filterMap (fault? name) := by
  cases parts <;> rfl

theorem faults_member (name : Int64 → String) (field : FieldRef) (values : List Literal)
    (negated : Bool) : (member field values negated).faults name =
      if values.all Literal.isNull then [.missingFilterValue (field.under name)] else [] := by
  cases absent : values.all Literal.isNull <;>
    simp [faults, nodes, fault?, emptyGroup?, valueless?, absent]

theorem faults_textMatch (name : Int64 → String) (kind : TextMatch) (field : FieldRef)
    (value : Literal) (caseSensitive : Bool) :
    (textMatch kind field value caseSensitive).faults name =
      if [value].all Literal.isNull then [.missingFilterValue (field.under name)] else [] := by
  cases value <;> rfl

variable {names : FieldNames} {name : Int64 → String} {field : FieldRef}

theorem onIdentifier_reports (known : names.nameOf field = .ok (field.under name)) (rest : Phrase) :
    Outcome.Reports (onIdentifier names field rest) [] := by
  rw [onIdentifier, FieldNames.identifier, known]
  exact Outcome.reports_ok _

/-- A predicate needs a value that is not absent, and nothing else. -/
theorem onValues_reports (known : names.nameOf field = .ok (field.under name)) (operator : Operator)
    (values : List Literal) (caseSensitive : Bool) :
    Outcome.Reports (onValues names field operator values caseSensitive)
      (if values.all Literal.isNull then [.missingFilterValue (field.under name)] else []) := by
  simp only [onValues, known, Predicate.onField]
  by_cases absent : values.all Literal.isNull
  · rw [if_pos absent, if_pos absent]
    exact rfl
  · rw [if_neg absent, if_neg absent]
    cases operator.isPattern <;> exact Outcome.reports_ok _

theorem phrases_cons (names : FieldNames) (part : Filter) (rest : List Filter) :
    phrases names (part :: rest) =
      part.phrase names >>= fun first => (phrases names rest).map (first :: ·) := by
  rw [phrases]
  cases part.phrase names <;> rfl

/-- Between joined conditions only their own faults count, and a group of none has one of its own. -/
theorem group_reports {parts : List Filter} {word : String} (joiner : Keyword)
    {phrases : Except CompileError (List Phrase)} {faults : List CompileError}
    (reports : Outcome.Reports phrases faults) :
    Outcome.Reports (if parts.isEmpty then .error (.malformedFilter (.noClause word))
        else phrases.map (group joiner))
      ((if parts.isEmpty then [.malformedFilter (.noClause word)] else []) ++ faults) := by
  cases parts with
  | nil => exact rfl
  | cons part rest => exact reports.map _

mutual

/-- A filter over known columns fails with the first fault of its conditions. -/
theorem phrase_reports (filter : Filter) (knows : names.Knows filter.fieldRefs name) :
    Outcome.Reports (filter.phrase names) (filter.faults name) := by
  cases filter with
  | compare comparison field value => exact onIdentifier_reports (knows field (.head _)) _
  | between field low high => exact onIdentifier_reports (knows field (.head _)) _
  | member field values negated =>
    rw [phrase, faults_member]
    exact onValues_reports (knows field (.head _)) _ values true
  | textMatch kind field value caseSensitive =>
    rw [phrase, faults_textMatch]
    exact onValues_reports (knows field (.head _)) kind.operator [value] caseSensitive
  | all parts =>
    rw [phrase, faults_all]
    exact group_reports .and (phrases_report parts knows)
  | any parts =>
    rw [phrase, faults_any]
    exact group_reports .or (phrases_report parts knows)
  | not part => exact (phrase_reports part knows).map _

/-- Filters report the faults of their nodes from left to right. -/
theorem phrases_report (parts : List Filter) (knows : names.Knows (fieldRefsOfAll parts) name) :
    Outcome.Reports (phrases names parts) ((nodesOfAll parts).filterMap (fault? name)) := by
  cases parts with
  | nil => exact Outcome.reports_ok []
  | cons part rest =>
    have first := phrase_reports part fun field member => knows field (List.mem_append_left _ member)
    have others := phrases_report rest fun field member => knows field (List.mem_append_right _ member)
    rw [phrases_cons, nodesOfAll, List.filterMap_append]
    exact first.bind fun phrase => others.map _

end

end Filter

/-! ## Faults of a query -/

/-- What an aggregation lacks: a column to aggregate, unless it counts, and then the operand of a
percentile. -/
def Aggregation.faults (aggregation : Aggregation) : List CompileError :=
  (if aggregation.kind ≠ .count ∧ aggregation.field = none then
    [.invalidQuery (.aggregationField aggregation.kind.word)] else []) ++
  (if aggregation.kind = .percentile ∧ aggregation.percentile = none then
    [.invalidQuery .percentileOperand] else [])

/-- What a sort lacks where there are so many aggregations. -/
def SortOrder.faults (aggregations : Nat) (order : SortOrder) : List CompileError :=
  match order.target with
  | .field _ => []
  | .aggregation index =>
    if index < aggregations then [] else [.invalidQuery (.missingAggregation index)]

namespace Query

/-- What a query lacks, when ids have these names: first in its aggregations, then in its sorting, and
last in its filter. -/
def violations (query : Query) (name : Int64 → String) : List CompileError :=
  query.aggregations.flatMap Aggregation.faults ++
    query.orderBy.flatMap (SortOrder.faults query.aggregations.length) ++
    query.filter.toList.flatMap (Filter.faults name)

/-- Nothing is missing in any clause of a query. -/
structure LacksNothing (query : Query) : Prop where
  subjects : ∀ aggregation ∈ query.aggregations, aggregation.kind ≠ .count →
    aggregation.field.isSome
  operands : ∀ aggregation ∈ query.aggregations, aggregation.kind = .percentile →
    aggregation.percentile.isSome
  targets : ∀ order ∈ query.orderBy, ∀ index, order.target = .aggregation index →
    index < query.aggregations.length
  groups : ∀ filter ∈ query.filter, .all [] ∉ filter.nodes ∧ .any [] ∉ filter.nodes
  searched : ∀ filter ∈ query.filter, ∀ field values negated,
    .member field values negated ∈ filter.nodes → ∃ value ∈ values, value.isNull = false
  matched : ∀ filter ∈ query.filter, ∀ kind field value caseSensitive,
    .textMatch kind field value caseSensitive ∈ filter.nodes → value.isNull = false

end Query

theorem aggregation_faults_iff {aggregation : Aggregation} : aggregation.faults = [] ↔
    (aggregation.kind ≠ .count → aggregation.field.isSome) ∧
      (aggregation.kind = .percentile → aggregation.percentile.isSome) := by
  simp [Aggregation.faults, Option.isSome_iff_ne_none]

/-- A sort order is at fault when it points at an aggregation that there is none of. -/
theorem sort_faults_iff {aggregations : Nat} {order : SortOrder} :
    order.faults aggregations = [] ↔
      ∀ index, order.target = .aggregation index → index < aggregations := by
  obtain ⟨target, direction⟩ := order
  cases target <;> simp [SortOrder.faults]

theorem filter_faults_iff {name : Int64 → String} {filter : Filter} : filter.faults name = [] ↔
    (.all [] ∉ filter.nodes ∧ .any [] ∉ filter.nodes) ∧
    (∀ field values negated, .member field values negated ∈ filter.nodes →
      ∃ value ∈ values, value.isNull = false) ∧
    (∀ kind field value caseSensitive, .textMatch kind field value caseSensitive ∈ filter.nodes →
      value.isNull = false) := by
  rw [Filter.faults, List.filterMap_eq_nil_iff]
  constructor
  · intro whole
    refine ⟨⟨?_, ?_⟩, ?_, ?_⟩
    · intro empty
      cases whole _ empty
    · intro empty
      cases whole _ empty
    · intro field values negated member
      simpa [Filter.fault?, Filter.emptyGroup?, Filter.valueless?] using whole _ member
    · intro kind field value caseSensitive member
      simpa [Filter.fault?, Filter.emptyGroup?, Filter.valueless?] using whole _ member
  · rintro ⟨⟨noAll, noAny⟩, searched, matched⟩ node member
    cases node with
    | member field values negated =>
      simpa [Filter.fault?, Filter.emptyGroup?, Filter.valueless?] using searched _ _ _ member
    | textMatch kind field value caseSensitive =>
      simpa [Filter.fault?, Filter.emptyGroup?, Filter.valueless?] using matched _ _ _ _ member
    | all parts =>
      have nonempty : parts ≠ [] := by
        rintro rfl
        exact noAll member
      rw [Filter.fault?, (Filter.emptyGroup_of_parts nonempty).1]
      rfl
    | any parts =>
      have nonempty : parts ≠ [] := by
        rintro rfl
        exact noAny member
      rw [Filter.fault?, (Filter.emptyGroup_of_parts nonempty).2]
      rfl
    | _ => rfl

namespace Query

variable {query : Query} {names : FieldNames} {name : Int64 → String}

/-- A query has no violation exactly when it lacks nothing. -/
theorem violations_eq_nil_iff : query.violations name = [] ↔ query.LacksNothing := by
  simp only [violations, List.append_eq_nil_iff, List.flatMap_eq_nil_iff, aggregation_faults_iff,
    sort_faults_iff, filter_faults_iff, Option.mem_toList]
  constructor
  · rintro ⟨⟨aggregations, sorting⟩, condition⟩
    refine ⟨?_, ?_, sorting, ?_, ?_, ?_⟩
    · exact fun aggregation member => (aggregations aggregation member).1
    · exact fun aggregation member => (aggregations aggregation member).2
    · exact fun filter present => (condition filter present).1
    · exact fun filter present => (condition filter present).2.1
    · exact fun filter present => (condition filter present).2.2
  · intro whole
    refine ⟨⟨?_, whole.targets⟩, ?_⟩
    · intro aggregation member
      exact ⟨whole.subjects aggregation member, whole.operands aggregation member⟩
    · intro filter present
      exact ⟨whole.groups filter present, whole.searched filter present,
        whole.matched filter present⟩

theorem identifier_reports {field : FieldRef} (known : names.nameOf field = .ok (field.under name)) :
    Outcome.Reports (Aggregation.identifier names field) [] := by
  rw [Aggregation.identifier, FieldNames.identifier, known]
  exact Outcome.reports_ok _

theorem subject_reports {aggregation : Aggregation}
    (knows : names.Knows aggregation.fieldRefs name) :
    Outcome.Reports (aggregation.subject names)
      (if aggregation.kind ≠ .count ∧ aggregation.field = none then
        [.invalidQuery (.aggregationField aggregation.kind.word)] else []) := by
  unfold Aggregation.subject
  split
  · next counts =>
    rw [if_neg (by simp [counts])]
    exact Outcome.reports_ok _
  · next without other =>
    rw [if_pos ⟨other, without⟩]
    exact rfl
  · next field held _ =>
    rw [if_neg (by simp [held])]
    exact identifier_reports (knows field (by simp [Aggregation.fieldRefs, held]))

theorem secondArgument_reports {aggregation : Aggregation}
    (knows : names.Knows aggregation.fieldRefs name) :
    Outcome.Reports (aggregation.secondArgument names)
      (if aggregation.kind = .percentile ∧ aggregation.percentile = none then
        [.invalidQuery .percentileOperand] else []) := by
  unfold Aggregation.secondArgument
  by_cases percentile : aggregation.kind = .percentile
  · rw [if_pos percentile]
    split
    · next without =>
      rw [if_pos ⟨percentile, without⟩]
      exact rfl
    · next field held =>
      rw [if_neg (by simp [held])]
      exact (identifier_reports (knows field (by simp [Aggregation.fieldRefs, held]))).map _
    · next held =>
      rw [if_neg (by simp [held])]
      exact Outcome.reports_ok _
  · rw [if_neg percentile, if_neg fun both => percentile both.1]
    exact Outcome.reports_ok _

/-- An aggregation reports the column that it lacks, and then the operand. -/
theorem item_reports {aggregation : Aggregation} (knows : names.Knows aggregation.fieldRefs name) :
    Outcome.Reports (aggregation.item names) aggregation.faults := by
  refine (subject_reports knows).bind fun first => ?_
  have rest := (secondArgument_reports knows).bind fun second => Outcome.reports_ok
    (⟨Phrase.call aggregation.kind.function (first ++ second), some aggregation.resultName⟩ : SelectItem)
  rwa [List.append_nil] at rest

theorem sortItem_reports {order : SortOrder} (knows : names.Knows order.fieldRefs name)
    (aggregations : List Aggregation) :
    Outcome.Reports (sortItem names aggregations order) (order.faults aggregations.length) := by
  refine Outcome.Reports.map ?_ _
  obtain ⟨target, direction⟩ := order
  cases target with
  | field field => exact identifier_reports (knows field (.head _))
  | aggregation index =>
    simp only [sortPhrase, SortOrder.faults]
    by_cases within : index < aggregations.length
    · rw [if_pos within, List.getElem?_eq_getElem within]
      exact Outcome.reports_ok _
    · rw [if_neg within, List.getElem?_eq_none (Nat.le_of_not_lt within)]
      exact rfl

theorem identifiers_report {fields : List FieldRef} (knows : names.Knows fields name) :
    Outcome.Reports (identifiers names fields) [] := by
  have reports := Outcome.reports_mapM fun field member => identifier_reports (knows field member)
  rwa [List.flatMap_eq_nil_iff.mpr fun _ _ => rfl] at reports

/-- A query over known columns fails with the first of what it lacks. -/
theorem select_reports (knows : names.Knows query.fieldRefs name) (table : String) :
    Outcome.Reports (query.select table names) (query.violations name) := by
  simp only [fieldRefs, FieldNames.knows_append, FieldNames.knows_flatMap] at knows
  obtain ⟨⟨⟨⟨inFields, inBreakout⟩, inFilter⟩, inAggregations⟩, inOrder⟩ := knows
  have columns : Outcome.Reports
      (identifiers names (if query.fields.isEmpty then query.breakout else query.fields)) [] := by
    split
    · exact identifiers_report inBreakout
    · exact identifiers_report inFields
  have aggregations : Outcome.Reports (query.aggregations.mapM (Aggregation.item names))
      (query.aggregations.flatMap Aggregation.faults) :=
    Outcome.reports_mapM fun aggregation member => item_reports (inAggregations aggregation member)
  have sorting : Outcome.Reports (query.orderBy.mapM (sortItem names query.aggregations))
      (query.orderBy.flatMap (SortOrder.faults query.aggregations.length)) :=
    Outcome.reports_mapM fun order member => sortItem_reports (inOrder order member) _
  have inOrderOfClauses : query.violations name =
      [] ++ ([] ++ (query.aggregations.flatMap Aggregation.faults ++
        (query.orderBy.flatMap (SortOrder.faults query.aggregations.length) ++
          (query.filter.toList.flatMap (Filter.faults name) ++ [])))) := by
    simp [violations]
  -- The columns and the grouping are built first, and nothing can be wrong with them.
  rw [inOrderOfClauses]
  refine columns.bind fun _ => (identifiers_report inBreakout).bind fun _ => ?_
  refine aggregations.bind fun _ => sorting.bind fun _ => ?_
  cases present : query.filter with
  | none => exact Outcome.reports_ok _
  | some filter =>
    rw [present] at inFilter
    rw [Option.toList_some, List.flatMap_singleton]
    exact ((Filter.phrase_reports filter inFilter).map some).bind fun _ => Outcome.reports_ok _

/-- What a compilation over a store that answers ends with. -/
theorem compile_reports {metadata : Metadata} {earlier : List Lookup} {table : String}
    (answered : query.IsAnswered metadata earlier table name) (timeout : Option Duration) :
    Outcome.Reports (query.compile timeout metadata earlier).result (query.violations name) := by
  obtain ⟨names, found, knows⟩ := lookUp_answered answered
  rw [compile_of_lookUp_ok timeout found]
  exact (select_reports knows table).map _

/-! ## Queries that were read -/

/-- Every group in a well-formed filter joins something. -/
theorem no_emptyGroup {filter : Filter} (formed : filter.IsWellFormed) :
    ∀ node ∈ filter.nodes, node.emptyGroup? = none := by
  induction formed with
  | compare comparison field scalar => exact List.forall_mem_singleton.mpr rfl
  | between field low high => exact List.forall_mem_singleton.mpr rfl
  | member field negated several scalar => exact List.forall_mem_singleton.mpr rfl
  | textMatch kind field caseSensitive scalar => exact List.forall_mem_singleton.mpr rfl
  | all nonempty each ih =>
    rw [Filter.nodes, Filter.nodesOfAll_eq, List.forall_mem_cons, List.forall_mem_flatMap]
    exact ⟨(Filter.emptyGroup_of_parts nonempty).1, ih⟩
  | any nonempty each ih =>
    rw [Filter.nodes, Filter.nodesOfAll_eq, List.forall_mem_cons, List.forall_mem_flatMap]
    exact ⟨(Filter.emptyGroup_of_parts nonempty).2, ih⟩
  | not inner ih => exact List.forall_mem_cons.mpr ⟨rfl, ih⟩

/-- A well-formed query lacks nothing but values to search for. -/
theorem violations_of_wellFormed (formed : query.IsWellFormed) (name : Int64 → String) :
    query.violations name = query.filter.toList.flatMap fun filter =>
      filter.nodes.filterMap fun node =>
        node.valueless?.map fun field => .missingFilterValue (field.under name) := by
  have aggregations : query.aggregations.flatMap Aggregation.faults = [] := by
    refine List.flatMap_eq_nil_iff.mpr fun aggregation member => aggregation_faults_iff.mpr ?_
    have complete := formed.complete aggregation member
    unfold Aggregation.IsComplete at complete
    split at complete
    · next counts => simp [counts]
    · next percentile =>
      obtain ⟨subject, operand, held, -⟩ := complete
      simp [subject, held]
    · next other => exact ⟨fun _ => complete.1, fun percentile => absurd percentile other⟩
  have sorting : query.orderBy.flatMap (SortOrder.faults query.aggregations.length) = [] := by
    refine List.flatMap_eq_nil_iff.mpr fun order member => sort_faults_iff.mpr fun index target => ?_
    have within := formed.within order member
    rw [target] at within
    exact within.1
  rw [violations, aggregations, sorting, List.nil_append, List.nil_append]
  cases present : query.filter with
  | none => rfl
  | some filter =>
    rw [Option.toList_some, List.flatMap_singleton, List.flatMap_singleton]
    refine List.filterMap_congr fun node member => ?_
    rw [Filter.fault?, no_emptyGroup (formed.condition filter present) node member]
    rfl

/-- The first search of a query that has no value to search for is one in this column. -/
def FirstValueless (query : Query) (field : FieldRef) : Prop :=
  ∃ filter ∈ query.filter, ∃ before leaf after, filter.nodes = before ++ leaf :: after ∧
    (∀ node ∈ before, node.valueless? = none) ∧ leaf.valueless? = some field

/-- A query that is well formed lacks nothing but values. -/
theorem firstValueless_of_head (formed : query.IsWellFormed) {error : CompileError}
    (first : (query.violations name).head? = some error) :
    ∃ field, query.FirstValueless field ∧ error = .missingFilterValue (field.under name) := by
  rw [violations_of_wellFormed formed] at first
  cases present : query.filter with
  | none =>
    rw [present] at first
    cases first
  | some filter =>
    rw [present, Option.toList_some, List.flatMap_singleton, List.head?_filterMap,
      List.findSome?_eq_some_iff] at first
    obtain ⟨before, leaf, after, split, lacks, others⟩ := first
    obtain ⟨field, valueless, rfl⟩ := Option.map_eq_some_iff.mp lacks
    refine ⟨field, ⟨filter, present, before, leaf, after, split, ?_, valueless⟩, rfl⟩
    exact fun node member => Option.map_eq_none_iff.mp (others node member)

/-- Over a store that answers, a query compiles exactly when it lacks nothing, and otherwise fails with
the first thing that it lacks. A query that was read fails only for a name that is not resolved, or at
its first search without a value. -/
theorem compilation_reports_first_violation (query : Query) (timeout : Option Duration)
    (metadata : Metadata) (earlier : List Lookup) :
    (∀ table name, query.IsAnswered metadata earlier table name →
      ((∃ native, (query.compile timeout metadata earlier).result = .ok native) ↔
        query.LacksNothing) ∧
      ∀ error, (query.compile timeout metadata earlier).result = .error error ↔
        (query.violations name).head? = some error) ∧
    ∀ value error, Query.ofJson value = .ok query →
      (compileJson value timeout metadata earlier).result = .error error →
      (∃ cause, error = .unresolved cause) ∨
        ∃ table name field, query.IsAnswered metadata earlier table name ∧
          query.FirstValueless field ∧ error = .missingFilterValue (field.under name) := by
  constructor
  · intro table name answered
    have reports := compile_reports answered timeout
    exact ⟨reports.ok_iff.trans violations_eq_nil_iff, fun error => reports.error_iff⟩
  · intro value error made failed
    rw [compileJson_of_read made] at failed
    cases found : query.lookUp metadata earlier with
    | mk result later =>
      cases result with
      | error cause =>
        rw [compile_of_lookUp_error timeout found] at failed
        cases failed
        exact .inl ⟨cause, rfl⟩
      | ok names =>
        obtain ⟨table, names⟩ := names
        obtain ⟨name, answered, -⟩ := answered_of_lookUp found
        have first := (compile_reports answered timeout).error_iff.mp failed
        obtain ⟨field, valueless, same⟩ := firstValueless_of_head (query_isWellFormed made) first
        exact .inr ⟨table, name, field, answered, valueless, same⟩

/-- A query map with two searches for nothing, after one that looks for something as well. -/
def valuelessMap : Json :=
  .object
    [ ("query", .object
        [ ("filter", .array [.string "or",
            .array [.string "not", .array [.string "=", .ofInt64 1, .null, .bool true]],
            .array [.string "and", .array [.string "!=", .ofInt64 2, .null, .null],
              .array [.string "contains", .ofInt64 1, .null]]]),
          ("source-table", .ofInt64 5) ]) ]

/-- The query that is read from it. -/
def valuelessQuery : Query where
  sourceTable := 5
  filter := some (.any
    [ .not (.member (.byId 1) [.null, .boolean true] false),
      .all [.member (.byId 2) [.null, .null] true, .textMatch .contains (.byId 1) .null true] ])

/-- A map whose filter has a column without a value: the query is read and its columns are named, and the
error is that column. -/
theorem valueless_query_is_reported :
    Query.ofJson valuelessMap = .ok valuelessQuery ∧
    valuelessQuery.IsAnswered twoColumns.metadata [] "t" twoColumns.columnName ∧
    (compileJson valuelessMap none twoColumns.metadata []).result =
      .error (.missingFilterValue "c") ∧
    ¬ valuelessQuery.LacksNothing ∧
    ∃ table name field, valuelessQuery.IsAnswered twoColumns.metadata [] table name ∧
      valuelessQuery.FirstValueless field ∧ field.under name = "c" := by
  have read : Query.ofJson valuelessMap = .ok valuelessQuery := by rfl
  have answered : valuelessQuery.IsAnswered twoColumns.metadata [] "t" twoColumns.columnName :=
    ⟨rfl, Catalog.gives (by decide +kernel) _⟩
  obtain ⟨outcome, fails⟩ :=
    compilation_reports_first_violation valuelessQuery none twoColumns.metadata []
  obtain ⟨compiles, reports⟩ := outcome "t" _ answered
  have failed : (valuelessQuery.compile none twoColumns.metadata []).result =
      .error (.missingFilterValue "c") := (reports _).mpr rfl
  have failedRead := failed
  rw [← compileJson_of_read read] at failedRead
  refine ⟨read, answered, failedRead, fun whole => ?_, ?_⟩
  · obtain ⟨native, made⟩ := compiles.mpr whole
    rw [failed] at made
    cases made
  · rcases fails valuelessMap _ read failedRead with ⟨cause, ⟨⟩⟩ | ⟨table, name, field, given⟩
    obtain ⟨answered, first, same⟩ := given
    exact ⟨table, name, field, answered, first, (CompileError.missingFilterValue.inj same).symm⟩

end Query

end ColumnQuery
