import ColumnQuery.Proofs.Query.Lookups
import ColumnQuery.Proofs.Template.Lookups

/-! Names in the place of ids. A query or a parameter that names its columns itself becomes the same SQL
as one that refers to them by ids which the store gives these names, and fails for the same reason. Only
the lookups differ: there are none for columns that are named. -/
namespace ColumnQuery
open Sql

/-! ## Columns by their names -/

/-- A column by the name that it goes by. -/
def FieldRef.withNames (name : Int64 → String) (field : FieldRef) : FieldRef :=
  .byName (field.under name)

/-- Columns by name are not looked up. -/
theorem FieldRef.lookups_withNames (name : Int64 → String) (fields : List FieldRef) :
    lookups (fields.map (withNames name)) = [] := by
  simp [lookups, distinctIds, id?, withNames, List.filterMap_map, Function.comp_def]

namespace FieldNames

variable {names : FieldNames} {name : Int64 → String} {field : FieldRef}

/-- A column by name has that name. -/
theorem nameOf_withNames (names : FieldNames) (name : Int64 → String) (field : FieldRef) :
    names.nameOf (field.withNames name) = .ok (field.under name) :=
  rfl

/-- A column that is known is the same identifier as the column by its name. -/
theorem identifier_withNames (known : names.nameOf field = .ok (field.under name))
    (others : FieldNames) : others.identifier (field.withNames name) = names.identifier field := by
  rw [identifier, identifier, known, nameOf_withNames]

end FieldNames

/-! ## Queries -/

def Percentile.withNames (name : Int64 → String) : Percentile → Percentile
  | .field column => .field (column.withNames name)
  | .value literal => .value literal

def Aggregation.withNames (name : Int64 → String) (aggregation : Aggregation) : Aggregation :=
  { aggregation with
    field := aggregation.field.map (FieldRef.withNames name)
    percentile := aggregation.percentile.map (Percentile.withNames name) }

mutual

/-- A filter over columns by their names. -/
def Filter.withNames (name : Int64 → String) : Filter → Filter
  | .compare comparison field value => .compare comparison (field.withNames name) value
  | .between field low high => .between (field.withNames name) low high
  | .member field values negated => .member (field.withNames name) values negated
  | .textMatch kind field value caseSensitive =>
    .textMatch kind (field.withNames name) value caseSensitive
  | .all parts => .all (Filter.allWithNames name parts)
  | .any parts => .any (Filter.allWithNames name parts)
  | .not part => .not (part.withNames name)

/-- Several filters over columns by their names. -/
def Filter.allWithNames (name : Int64 → String) : List Filter → List Filter
  | [] => []
  | part :: rest => part.withNames name :: Filter.allWithNames name rest

end

def SortTarget.withNames (name : Int64 → String) : SortTarget → SortTarget
  | .field column => .field (column.withNames name)
  | .aggregation index => .aggregation index

def SortOrder.withNames (name : Int64 → String) (order : SortOrder) : SortOrder :=
  { order with target := order.target.withNames name }

/-- A query with every column by its name, in every clause. -/
def Query.withNames (name : Int64 → String) (query : Query) : Query :=
  { query with
    fields := query.fields.map (FieldRef.withNames name)
    breakout := query.breakout.map (FieldRef.withNames name)
    aggregations := query.aggregations.map (Aggregation.withNames name)
    filter := query.filter.map (Filter.withNames name)
    orderBy := query.orderBy.map (SortOrder.withNames name) }

/-! ### The columns named -/

mutual

theorem Filter.fieldRefs_withNames (name : Int64 → String) (filter : Filter) :
    (filter.withNames name).fieldRefs = filter.fieldRefs.map (FieldRef.withNames name) := by
  cases filter with
  | all parts => exact Filter.fieldRefs_allWithNames name parts
  | any parts => exact Filter.fieldRefs_allWithNames name parts
  | not part => exact part.fieldRefs_withNames name
  | _ => rfl

theorem Filter.fieldRefs_allWithNames (name : Int64 → String) (parts : List Filter) :
    fieldRefsOfAll (allWithNames name parts) =
      (fieldRefsOfAll parts).map (FieldRef.withNames name) := by
  cases parts with
  | nil => rfl
  | cons part rest =>
    rw [allWithNames, fieldRefsOfAll, fieldRefsOfAll, List.map_append,
      part.fieldRefs_withNames name, Filter.fieldRefs_allWithNames name rest]

end

theorem Aggregation.fieldRefs_withNames (name : Int64 → String) (aggregation : Aggregation) :
    (aggregation.withNames name).fieldRefs =
      aggregation.fieldRefs.map (FieldRef.withNames name) := by
  obtain ⟨kind, field, percentile, resultName⟩ := aggregation
  cases field <;> rcases percentile with _ | ⟨_ | _⟩ <;> rfl

theorem SortOrder.fieldRefs_withNames (name : Int64 → String) (order : SortOrder) :
    (order.withNames name).fieldRefs = order.fieldRefs.map (FieldRef.withNames name) := by
  obtain ⟨target, direction⟩ := order
  cases target <;> rfl

/-- The columns of the renamed query are the renamed columns of the query. -/
theorem Query.fieldRefs_withNames (name : Int64 → String) (query : Query) :
    (query.withNames name).fieldRefs = query.fieldRefs.map (FieldRef.withNames name) := by
  have condition : ((query.filter.map (Filter.withNames name)).map Filter.fieldRefs).getD [] =
      ((query.filter.map Filter.fieldRefs).getD []).map (FieldRef.withNames name) := by
    cases query.filter with
    | none => rfl
    | some filter => exact filter.fieldRefs_withNames name
  simp only [fieldRefs, withNames, List.map_append, condition, List.flatMap_map, List.map_flatMap,
    Aggregation.fieldRefs_withNames, SortOrder.fieldRefs_withNames]

/-! ### Clauses -/

section Clauses

variable {names : FieldNames} {name : Int64 → String} {field : FieldRef} (others : FieldNames)

theorem identifier_withNames (known : names.nameOf field = .ok (field.under name)) :
    Aggregation.identifier others (field.withNames name) = Aggregation.identifier names field := by
  rw [Aggregation.identifier, Aggregation.identifier, FieldNames.identifier_withNames known]

theorem subject_withNames {aggregation : Aggregation}
    (knows : names.Knows aggregation.fieldRefs name) :
    (aggregation.withNames name).subject others = aggregation.subject names := by
  obtain ⟨kind, field, percentile, resultName⟩ := aggregation
  cases field with
  | none => cases kind <;> rfl
  | some field =>
    have same := identifier_withNames others (knows field (.head _))
    cases kind <;> first | rfl | exact same

theorem secondArgument_withNames {aggregation : Aggregation}
    (knows : names.Knows aggregation.fieldRefs name) :
    (aggregation.withNames name).secondArgument others = aggregation.secondArgument names := by
  obtain ⟨kind, subject, percentile, resultName⟩ := aggregation
  match percentile with
  | none => rfl
  | some (.value literal) => rfl
  | some (.field field) =>
    have same := identifier_withNames others
      (knows field (List.mem_append_right _ (List.mem_singleton_self field)))
    simp only [Aggregation.secondArgument, Aggregation.withNames, Option.map_some,
      Percentile.withNames, same]

/-- An aggregation is written alike under the names that its columns have. -/
theorem item_withNames {aggregation : Aggregation}
    (knows : names.Knows aggregation.fieldRefs name) :
    (aggregation.withNames name).item others = aggregation.item names := by
  rw [Aggregation.item, subject_withNames others knows, secondArgument_withNames others knows]
  rfl

theorem onIdentifier_withNames (known : names.nameOf field = .ok (field.under name))
    (rest : Phrase) : Filter.onIdentifier others (field.withNames name) rest =
      Filter.onIdentifier names field rest := by
  rw [Filter.onIdentifier, Filter.onIdentifier, FieldNames.identifier_withNames known]

theorem onValues_withNames (known : names.nameOf field = .ok (field.under name))
    (operator : Operator) (values : List Literal) (caseSensitive : Bool) :
    Filter.onValues others (field.withNames name) operator values caseSensitive =
      Filter.onValues names field operator values caseSensitive := by
  rw [Filter.onValues, Filter.onValues, FieldNames.nameOf_withNames, known]

theorem isEmpty_allWithNames (name : Int64 → String) (parts : List Filter) :
    (Filter.allWithNames name parts).isEmpty = parts.isEmpty := by
  cases parts <;> rfl

mutual

/-- A filter is written alike under the names that its columns have. -/
theorem phrase_withNames (filter : Filter) (knows : names.Knows filter.fieldRefs name) :
    (filter.withNames name).phrase others = filter.phrase names := by
  cases filter with
  | compare comparison field value => exact onIdentifier_withNames others (knows field (.head _)) _
  | between field low high => exact onIdentifier_withNames others (knows field (.head _)) _
  | member field values negated => exact onValues_withNames others (knows field (.head _)) _ _ _
  | textMatch kind field value caseSensitive =>
    exact onValues_withNames others (knows field (.head _)) _ _ _
  | all parts =>
    rw [Filter.withNames, Filter.phrase, Filter.phrase, isEmpty_allWithNames,
      phrases_withNames parts knows]
  | any parts =>
    rw [Filter.withNames, Filter.phrase, Filter.phrase, isEmpty_allWithNames,
      phrases_withNames parts knows]
  | not part => rw [Filter.withNames, Filter.phrase, Filter.phrase, phrase_withNames part knows]

theorem phrases_withNames (parts : List Filter)
    (knows : names.Knows (Filter.fieldRefsOfAll parts) name) :
    Filter.phrases others (Filter.allWithNames name parts) = Filter.phrases names parts := by
  cases parts with
  | nil => rfl
  | cons part rest =>
    obtain ⟨first, following⟩ := FieldNames.knows_append.mp knows
    rw [Filter.allWithNames, Filter.phrases, Filter.phrases, phrase_withNames part first,
      phrases_withNames rest following]

end

theorem sortItem_withNames {order : SortOrder} (knows : names.Knows order.fieldRefs name)
    (aggregations : List Aggregation) :
    Query.sortItem others (aggregations.map (Aggregation.withNames name)) (order.withNames name) =
      Query.sortItem names aggregations order := by
  obtain ⟨target, direction⟩ := order
  refine congrArg (Except.map _) ?_
  cases target with
  | field field => exact identifier_withNames others (knows field (.head _))
  | aggregation index =>
    simp only [SortOrder.withNames, SortTarget.withNames, Query.sortPhrase, List.getElem?_map]
    cases aggregations[index]? <;> rfl

theorem identifiers_withNames {fields : List FieldRef} (knows : names.Knows fields name) :
    Query.identifiers others (fields.map (FieldRef.withNames name)) =
      Query.identifiers names fields :=
  Outcome.mapM_of_map fun field member => identifier_withNames others (knows field member)

/-- A statement is made alike under the names that the columns have. -/
theorem select_withNames {query : Query} (knows : names.Knows query.fieldRefs name)
    (table : String) : (query.withNames name).select table others = query.select table names := by
  simp only [Query.fieldRefs, FieldNames.knows_append, FieldNames.knows_flatMap] at knows
  obtain ⟨⟨⟨⟨inFields, inBreakout⟩, inFilter⟩, inAggregations⟩, inOrder⟩ := knows
  have columns : Query.identifiers others (if (query.withNames name).fields.isEmpty then
        (query.withNames name).breakout else (query.withNames name).fields) =
      Query.identifiers names (if query.fields.isEmpty then query.breakout else query.fields) := by
    simp only [Query.withNames, List.isEmpty_map]
    split
    · exact identifiers_withNames others inBreakout
    · exact identifiers_withNames others inFields
  have aggregations : (query.withNames name).aggregations.mapM (Aggregation.item others) =
      query.aggregations.mapM (Aggregation.item names) :=
    Outcome.mapM_of_map fun aggregation member =>
      item_withNames others (inAggregations aggregation member)
  have sorting : (query.withNames name).orderBy.mapM
        (Query.sortItem others (query.withNames name).aggregations) =
      query.orderBy.mapM (Query.sortItem names query.aggregations) :=
    Outcome.mapM_of_map fun order member =>
      sortItem_withNames others (inOrder order member) query.aggregations
  have grouping : Query.identifiers others (query.withNames name).breakout =
      Query.identifiers names query.breakout := identifiers_withNames others inBreakout
  rw [Query.select, Query.select, columns, grouping, aggregations, sorting]
  obtain ⟨database, sourceTable, fields, breakout, aggregates, filter, orderBy, limit, page⟩ := query
  cases filter with
  | none => rfl
  | some filter =>
    simp only [Query.withNames, Option.map_some, phrase_withNames others filter inFilter]

end Clauses

/-- Columns by their names are not looked up. -/
theorem resolve_withNames (name : Int64 → String) (fields : List FieldRef) (metadata : Metadata)
    (earlier : List Lookup) :
    FieldNames.resolve (fields.map (FieldRef.withNames name)) metadata earlier =
      ⟨.ok {}, earlier⟩ := by
  rw [FieldNames.resolve]
  induction fields with
  | nil => rfl
  | cons field rest ih => exact ih

/-- Naming the columns of a query commutes with compiling it. -/
theorem compile_withNames {query : Query} {metadata : Metadata} {earlier : List Lookup}
    {name : Int64 → String}
    (gives : metadata.Gives (earlier ++ [.table query.sourceTable]) query.fieldRefs name)
    (timeout : Option Duration) : (query.withNames name).compile timeout metadata earlier =
      ⟨(query.compile timeout metadata earlier).result, earlier ++ [.table query.sourceTable]⟩ := by
  cases known : metadata earlier (.table query.sourceTable) with
  | error cause =>
    have failed (other : Query) (same : other.sourceTable = query.sourceTable) :
        other.compile timeout metadata earlier =
          ⟨.error (.unresolved cause), earlier ++ [.table query.sourceTable]⟩ := by
      refine Query.compile_of_lookUp_error timeout ?_
      rw [Query.lookUp, same]
      exact Asking.bind_of_error _ (Asking.ask_failed known)
    rw [failed (query.withNames name) rfl, failed query rfl]
  | ok table =>
    obtain ⟨names, found, knows⟩ := Query.lookUp_answered ⟨known, gives⟩
    have foundNamed : (query.withNames name).lookUp metadata earlier =
        ⟨.ok (table, {}), earlier ++ [.table query.sourceTable]⟩ := by
      have resolved := resolve_withNames name query.fieldRefs metadata
        (earlier ++ [.table query.sourceTable])
      rw [← Query.fieldRefs_withNames] at resolved
      have same : metadata earlier (.table (query.withNames name).sourceTable) = .ok table := known
      exact (Query.lookUp_of_table same).trans (Asking.bind_of_ok _ resolved)
    rw [Query.compile_of_lookUp_ok timeout foundNamed, Query.compile_of_lookUp_ok timeout found,
      select_withNames {} knows]

/-! ## Templates -/

def FieldFilter.withNames (name : Int64 → String) (filter : FieldFilter) : FieldFilter :=
  { filter with field := filter.field.withNames name }

def Param.withNames (name : Int64 → String) : Param → Param
  | .fieldFilter filter => .fieldFilter (filter.withNames name)
  | param => param

/-- Parameters with every column that they filter by its name. -/
def Params.withNames (name : Int64 → String) (params : Params) : Params :=
  params.map fun (key, param) => (key, param.withNames name)

section Template

variable {params : Params} {name : Int64 → String}

theorem find_withNames (params : Params) (name : Int64 → String) (key : String) :
    (params.withNames name).find? key = (params.find? key).map (Param.withNames name) := by
  induction params with
  | nil => rfl
  | cons entry rest ih =>
    rw [Keyed.find?, Keyed.find?, Params.withNames, List.map_cons, List.lookup_cons, List.lookup_cons]
    cases key == entry.1 with
    | true => rfl
    | false => exact ih

theorem lacks_withNames (params : Params) (name : Int64 → String) :
    (params.withNames name).lacks = params.lacks := by
  funext key
  rw [Params.lacks, Params.lacks, find_withNames]
  cases params.find? key with
  | none => rfl
  | some param => cases param <;> rfl

/-- Which parts of a template are live does not depend on how columns are given. -/
theorem live_withNames (parts : List TemplatePart) :
    Template.live (params.withNames name) parts = Template.live params parts :=
  Template.live_alike parts fun _ _ => by rw [lacks_withNames]

theorem columns_withNames (params : Params) (name : Int64 → String) (fragment : Fragment) :
    fragment.columns (params.withNames name) =
      (fragment.columns params).map (FieldRef.withNames name) := by
  cases fragment with
  | text content => rfl
  | reference key =>
    rw [Fragment.columns, Fragment.columns, find_withNames]
    cases params.find? key with
    | none => rfl
    | some param => cases param <;> rfl

/-- The columns that a template reaches are renamed in place. -/
theorem filterColumns_withNames (params : Params) (name : Int64 → String)
    (fragments : List Fragment) : Template.filterColumns (params.withNames name) fragments =
      (Template.filterColumns params fragments).map (FieldRef.withNames name) := by
  rw [Template.filterColumns, Template.filterColumns, List.map_flatMap]
  exact congrArg (List.flatMap · fragments) (funext (columns_withNames params name))

/-- A parameter by the name of its column renders as one whose column is given that name. -/
theorem render_withNames {column named : FieldRef → Except LookupError String} {fragment : Fragment}
    (given : ∀ field ∈ fragment.columns params, column field = .ok (field.under name))
    (own : ∀ own, named (.byName own) = .ok own) :
    fragment.render named (params.withNames name) = fragment.render column params := by
  cases fragment with
  | text content => rfl
  | reference key =>
    rw [Fragment.columns] at given
    rw [Fragment.render, Fragment.render, find_withNames]
    cases held : params.find? key with
    | none => rfl
    | some param =>
      rw [held] at given
      cases param with
      | fieldFilter filter =>
        have known := given filter.field (List.mem_singleton_self _)
        have named : named (filter.field.withNames name) = .ok (filter.field.under name) := own _
        simp only [Option.map_some, Param.withNames, Param.render, FieldFilter.withNames, known, named]
        rfl
      | _ => rfl

/-- Naming the columns of parameters commutes with substituting them. -/
theorem substitute_withNames {template : Template} {metadata : Metadata} {earlier : List Lookup}
    (gives : metadata.Gives earlier
      (Template.filterColumns params (Template.live params template)) name)
    (timeout : Option Duration) :
    template.substitute (params.withNames name) timeout metadata earlier =
      ⟨(template.substitute params timeout metadata earlier).result, earlier⟩ := by
  obtain ⟨reached, -, ended⟩ :=
    Template.substitute_reaches template params timeout metadata earlier
  obtain ⟨reachedNamed, -, endedNamed⟩ :=
    Template.substitute_reaches template (params.withNames name) timeout metadata earlier
  -- The same fragments are live, and each of them renders alike.
  have rendered : Template.renderAll
        (template.firstName (params.withNames name) metadata earlier) (params.withNames name)
        (Template.live params template) =
      Template.renderAll (template.firstName params metadata earlier) params
        (Template.live params template) := by
    refine congrArg (Except.map String.join) ?_
    exact Outcome.mapM_congr fun fragment member => render_withNames
      (fun field refers => gives.nameIn (List.mem_flatMap.mpr ⟨fragment, member, refers⟩)) fun _ => rfl
  rw [endedNamed, ended, live_withNames, rendered, filterColumns_withNames,
    FieldRef.lookups_withNames, List.append_nil]

end Template

/-- The names that a store gives to columns may be written in their place. A query whose ids the store
answers for compiles to the same statement with the names instead, or fails for the same reason, and
only its table is looked up. Parameters whose ids the store answers for are substituted to the same
text with the names instead, or fail for the same reason, and nothing is looked up. -/
theorem naming_columns_changes_no_result (metadata : Metadata) (earlier : List Lookup)
    (timeout : Option Duration) (name : Int64 → String) :
    (∀ query : Query,
      metadata.Gives (earlier ++ [.table query.sourceTable]) query.fieldRefs name →
      (query.withNames name).compile timeout metadata earlier =
        ⟨(query.compile timeout metadata earlier).result,
          earlier ++ [.table query.sourceTable]⟩) ∧
    ∀ (template : Template) (params : Params),
      metadata.Gives earlier (Template.filterColumns params (Template.live params template)) name →
      template.substitute (params.withNames name) timeout metadata earlier =
        ⟨(template.substitute params timeout metadata earlier).result, earlier⟩ :=
  ⟨fun _ gives => compile_withNames gives timeout, fun _ _ gives => substitute_withNames gives timeout⟩

/-- A query that refers to columns by ids in every clause. -/
def idsEverywhere : Query where
  sourceTable := 5
  fields := [.byId 2, .byName "b"]
  breakout := [.byId 1]
  aggregations := [⟨.percentile, some (.byId 1), some (.field (.byId 2)), "p"⟩]
  filter := some (.not (.any [.member (.byId 2) [.null, .boolean true] true]))
  orderBy := [⟨.field (.byId 1), .descending⟩]

/-- A clause with a filter on a column that has an id, and a clause that is left out. -/
def filteredClauses : Template :=
  [.optional [.text "WHERE ", .reference "kind"], .optional [.text " AND ", .reference "absent"]]

def kindParams : Params :=
  [("kind", .fieldFilter ⟨.byId 2, .contains, [.text "x"], true⟩)]

/-- A query with ids in every clause: under the names of its columns it compiles to the same result, and
only the table is looked up. -/
theorem naming_ids_changes_no_result :
    Query.twoColumns.metadata.Gives [.table 5] idsEverywhere.fieldRefs Query.twoColumns.columnName ∧
    (idsEverywhere.withNames Query.twoColumns.columnName).compile none Query.twoColumns.metadata [] =
      ⟨(idsEverywhere.compile none Query.twoColumns.metadata []).result, [.table 5]⟩ ∧
    Query.twoColumns.metadata.Gives []
      (Template.filterColumns kindParams (Template.live kindParams filteredClauses))
      Query.twoColumns.columnName ∧
    filteredClauses.substitute (kindParams.withNames Query.twoColumns.columnName) none
        Query.twoColumns.metadata [] =
      ⟨.ok ⟨"WHERE \"c\" LIKE '%x%'", {}⟩, []⟩ := by
  have inQuery : Query.twoColumns.metadata.Gives [.table 5] idsEverywhere.fieldRefs
    Query.twoColumns.columnName := Catalog.gives (by decide +kernel) _
  have inParams : Query.twoColumns.metadata.Gives []
      (Template.filterColumns kindParams (Template.live kindParams filteredClauses))
      Query.twoColumns.columnName := Catalog.gives (by decide +kernel) _
  obtain ⟨compiled, substituted⟩ := naming_columns_changes_no_result Query.twoColumns.metadata []
    none Query.twoColumns.columnName
  refine ⟨inQuery, compiled idsEverywhere inQuery, inParams, ?_⟩
  rw [substituted filteredClauses kindParams inParams]
  rfl

end ColumnQuery
