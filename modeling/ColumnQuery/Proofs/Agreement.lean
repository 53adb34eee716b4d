import ColumnQuery.Param.OfJson
import ColumnQuery.Proofs.Predicate
import ColumnQuery.Proofs.Query.Lookups
import ColumnQuery.Proofs.Query.Printed
import ColumnQuery.Proofs.Scalars
import ColumnQuery.Proofs.Template.Lookups

/-! Two ways to one predicate. A condition on a column can be written as the filter of a query or as a
field filter for a template. Each is read from JSON by a reader of its own, and both come to the same
text or fail for the same reason. -/
namespace ColumnQuery
open Sql

/-! ## Values -/

section Values

variable {values : List Json}

theorem filterValues_of_scalars (scalar : ∀ value ∈ values, value.IsScalar) :
    values.mapM filterValueOfJson = .ok (values.map Json.literal) := by
  refine Outcome.mapM_of_values fun value member => ?_
  unfold filterValueOfJson
  rw [ofJson_scalar (scalar value member)]

theorem literals_of_scalars (name : String) (scalar : ∀ value ∈ values, value.IsScalar) :
    Param.literalsOfJson name values = .ok (values.map Json.literal) := by
  refine Outcome.mapM_of_values fun value member => ?_
  rw [ofJson_scalar (scalar value member)]

end Values

/-! ## The condition in JSON -/

/-- Values that a condition can be written with: a pattern is made from one, and equality needs one
that is present if it is alone. -/
def Operator.Takes (operator : Operator) (values : List Json) : Prop :=
  if operator.isPattern then values.length = 1 else values ≠ [] ∧ values ≠ [.null]

/-- A condition as a filter clause. There is something to say about case only for a pattern. -/
def filterClause (operator : Operator) (column : Json) (values : List Json) (caseSensitive : Bool) :
    Json :=
  .array (.string operator.name :: column :: (values ++
    if operator.isPattern then [.object [("case-sensitive", .bool caseSensitive)]] else []))

/-- A query with a filter and nothing else. -/
def filterQuery (table : Int64) (clause : Json) : Json :=
  .object [("query", .object [("filter", clause), ("source-table", .ofInt64 table)])]

/-- A column as an id or a name alone. -/
def FieldRef.bareJson : FieldRef → Json
  | .byId id => .ofInt64 id
  | .byName name => .string name

/-- A condition as the value of a parameter. -/
def filterParam (operator : Operator) (field : FieldRef) (values : List Json)
    (caseSensitive : Bool) : Json :=
  .object [("case-sensitive", .bool caseSensitive), ("field", field.bareJson),
    ("operator", .string operator.name), ("value", .array values)]

section Reading

variable {operator : Operator} {values : List Json} {column : Json} {field : FieldRef}

/-- The operator of an equality, or of an inequality when it is negated. -/
def Operator.ofEquality (negated : Bool) : Operator :=
  if negated then .notEqual else .equal

/-- A comparison with one value that is present is the predicate on a list of this value. -/
theorem compare_phrase {value : Literal} (present : value.isNull = false) (negated : Bool)
    (field : FieldRef) (names : FieldNames) (caseSensitive : Bool) :
    (Filter.compare (if negated then .notEqual else .equal) field value).phrase names =
      Filter.onValues names field (.ofEquality negated) [value] caseSensitive := by
  rw [Filter.phrase, Filter.onIdentifier, Filter.onValues, FieldNames.identifier]
  cases names.nameOf field with
  | error cause => rfl
  | ok column => cases negated <;> simp [Predicate.onField, present] <;> rfl

/-- A filter with a list is written by the same predicate as a field filter under an equality. -/
theorem member_phrase (negated : Bool) (field : FieldRef) (values : List Literal)
    (names : FieldNames) (caseSensitive : Bool) :
    (Filter.member field values negated).phrase names =
      Filter.onValues names field (.ofEquality negated) values caseSensitive := by
  rw [Filter.phrase, Filter.onValues, Filter.onValues]
  cases negated <;> rfl

/-- A clause that compares a column with scalars is read as a filter that lists their literals. -/
theorem equality_reads (read : FieldRef.ofJson column = .ok field)
    (scalar : ∀ value ∈ values, value.IsScalar) (some_value : values ≠ [])
    (not_absent : values ≠ [.null]) (negated : Bool) (caseSensitive : Bool) : ∃ filter,
      Filter.ofJson (filterClause (.ofEquality negated) column values caseSensitive) = .ok filter ∧
      filter.fieldRefs = [field] ∧ ∀ names, filter.phrase names =
        Filter.onValues names field (.ofEquality negated) (values.map Json.literal) caseSensitive := by
  have shape : filterClause (.ofEquality negated) column values caseSensitive =
      .array (.string (if negated then "!=" else "=") :: column :: values) := by
    cases negated <;> simp [filterClause, Operator.ofEquality, Operator.isPattern, Operator.name]
  rw [shape, filter_equality, Filter.equalityOfJson, read, filterValues_of_scalars scalar]
  obtain _ | ⟨value, _ | ⟨second, others⟩⟩ := values
  · exact absurd rfl some_value
  · have present : value.literal.isNull = false := by
      rw [← Bool.not_eq_true, literal_isNull_iff (scalar value (.head _))]
      rintro rfl
      exact not_absent rfl
    exact ⟨_, rfl, rfl, fun names => compare_phrase present negated field names caseSensitive⟩
  · exact ⟨_, rfl, rfl, fun names => member_phrase negated field _ names caseSensitive⟩

/-- A clause that matches a column with one scalar is read as the match of its literal. -/
theorem pattern_reads (read : FieldRef.ofJson column = .ok field) {value : Json}
    (scalar : value.IsScalar) (kind : TextMatch) (caseSensitive : Bool) :
    Filter.ofJson (filterClause kind.operator column [value] caseSensitive) =
      .ok (.textMatch kind field value.literal caseSensitive) := by
  have shape : filterClause kind.operator column [value] caseSensitive =
      .array [.string kind.name, column, value, .object [("case-sensitive", .bool caseSensitive)]] := by
    cases kind <;> rfl
  have other : kind.name ∉ ["and", "or", "not", "between", "=", "!="] := by
    cases kind <;> decide
  have readValue : filterValueOfJson value = .ok value.literal := by
    unfold filterValueOfJson
    rw [ofJson_scalar scalar]
  rw [shape, filter_binary other, Filter.binaryOfJson, name_is_no_sign, match_of_name]
  simp only [read, readValue]
  rfl

/-- What a clause is read as is the predicate on all of its values. -/
theorem clause_reads (read : FieldRef.ofJson column = .ok field)
    (scalar : ∀ value ∈ values, value.IsScalar) (takes : operator.Takes values)
    (caseSensitive : Bool) : ∃ filter,
      Filter.ofJson (filterClause operator column values caseSensitive) = .ok filter ∧
      filter.fieldRefs = [field] ∧ ∀ names, filter.phrase names =
        Filter.onValues names field operator (values.map Json.literal) caseSensitive := by
  have matched (kind : TextMatch) (single : values.length = 1) : ∃ filter,
      Filter.ofJson (filterClause kind.operator column values caseSensitive) = .ok filter ∧
      filter.fieldRefs = [field] ∧ ∀ names, filter.phrase names =
        Filter.onValues names field kind.operator (values.map Json.literal) caseSensitive := by
    obtain ⟨value, rfl⟩ := List.length_eq_one_iff.mp single
    exact ⟨_, pattern_reads read (scalar value (.head _)) kind caseSensitive, rfl, fun _ => rfl⟩
  cases operator with
  | equal => exact equality_reads read scalar takes.1 takes.2 false caseSensitive
  | notEqual => exact equality_reads read scalar takes.1 takes.2 true caseSensitive
  | contains => exact matched .contains takes
  | doesNotContain => exact matched .doesNotContain takes
  | startsWith => exact matched .startsWith takes
  | endsWith => exact matched .endsWith takes

theorem condition_reads {clause : Json} {filter : Filter}
    (read : Filter.ofJson clause = .ok filter) : clauseOfJson (some clause) none (fun
      | .null => .ok none
      | value => (Filter.ofJson value).map some) = .ok (some filter) := by
  cases clause with
  | array items => exact congrArg (Except.map some) read
  | _ => cases read

/-- A query map with nothing but a filter is read as a query with nothing but a filter. -/
theorem filterQuery_reads {clause : Json} {filter : Filter} (read : Filter.ofJson clause = .ok filter)
    (table : Int64) : Query.ofJson (filterQuery table clause) =
      .ok { sourceTable := table, filter := some filter } := by
  have known : (Keyed.find? [("filter", clause), ("source-table", .ofInt64 table)]
      "source-table").bind Json.int64? = some table := int64_ofInt64 table
  have body : Query.ofBody none [("filter", clause), ("source-table", .ofInt64 table)] =
      .ok { sourceTable := table, filter := some filter } := by
    unfold Query.ofBody
    dsimp only
    rw [known]
    exact Outcome.bind_of_ok _ (condition_reads read)
  exact body

theorem operator_of_name (operator : Operator) : Operator.ofName? operator.name = some operator := by
  cases operator <;> rfl

theorem field_reads (name : String) (field : FieldRef) :
    Param.fieldOfJson name (some field.bareJson) = .ok field := by
  cases field with
  | byId id =>
    have read := int64_ofInt64 id
    rw [Json.ofInt64, Json.int64?] at read
    rw [FieldRef.bareJson, Json.ofInt64, Param.fieldOfJson, read]
  | byName own => rfl

/-- A field filter is read as the condition it was written for. -/
theorem filter_reads {name : String} {literals : List Literal}
    (read : Param.literalsOfJson name values = .ok literals) (operator : Operator)
    (field : FieldRef) (caseSensitive : Bool) :
    Param.ofJson name (filterParam operator field values caseSensitive) =
      .ok (.fieldFilter ⟨field, operator, literals, caseSensitive⟩) := by
  have operators : Param.operatorOfJson name (some (.string operator.name)) = .ok operator := by
    rw [Param.operatorOfJson, operator_of_name]
  have filter : Param.filterOfJson name [("case-sensitive", .bool caseSensitive),
        ("field", field.bareJson), ("operator", .string operator.name), ("value", .array values)] =
      .ok ⟨field, operator, literals, caseSensitive⟩ := by
    refine (Outcome.bind_of_ok _ (field_reads name field)).trans ?_
    refine (Outcome.bind_of_ok _ operators).trans ?_
    exact (Outcome.bind_of_ok _ read).trans rfl
  exact congrArg (Except.map Param.fieldFilter) filter

/-- A parameter with a column, an operator and scalars is read as the field filter of their literals. -/
theorem param_reads (scalar : ∀ value ∈ values, value.IsScalar) (operator : Operator)
    (field : FieldRef) (caseSensitive : Bool) :
    Params.ofJson (.object [("p", filterParam operator field values caseSensitive)]) =
      .ok [("p", .fieldFilter ⟨field, operator, values.map Json.literal, caseSensitive⟩)] := by
  have read := filter_reads (literals_of_scalars "p" scalar) operator field caseSensitive
  have members : Params.ofMembers [("p", filterParam operator field values caseSensitive)] =
      .ok [("p", .fieldFilter ⟨field, operator, values.map Json.literal, caseSensitive⟩)] :=
    Outcome.bind_of_ok _ read
  exact congrArg (Except.map Keyed.ofList) members

end Reading

/-! ## The text of a predicate -/

/-- The text of the predicate on a column that was looked up, or the reason why there is none. -/
def Predicate.textOn (found : Except LookupError String) (operator : Operator)
    (values : List Literal) (caseSensitive : Bool) : Except RenderError String :=
  match found with
  | .ok column => (onField column operator values caseSensitive).map Phrase.text
  | .error cause => .error (.unresolved cause)

/-- On a column that was found, only a value can be missing. -/
theorem Predicate.textOn_found (column : String) (operator : Operator) (values : List Literal)
    (caseSensitive : Bool) :
    (∃ text, textOn (.ok column) operator values caseSensitive = .ok text) ∨
      textOn (.ok column) operator values caseSensitive = .error (.missingFilterValue column) := by
  rw [textOn, onField]
  split
  · exact .inr rfl
  · split <;> exact .inl ⟨_, rfl⟩

section Paths

variable {operator : Operator} {values : List Literal} {caseSensitive : Bool} {field : FieldRef}
  {metadata : Metadata} {earlier : List Lookup}

/-- A query with a filter and nothing else selects under the condition that the filter becomes. -/
theorem select_filter (table : Int64) (filter : Filter) (source : String) (names : FieldNames) :
    Query.select { sourceTable := table, filter := some filter } source names =
      (filter.phrase names).map fun phrase => { source, condition := some phrase } := by
  change ((filter.phrase names).map some >>= fun condition =>
    .ok ({ source, condition } : Select)) = _
  cases filter.phrase names <;> rfl

/-- A filter that is a predicate on one column becomes the text of the predicate. -/
theorem compiled_condition {filter : Filter} {table : Int64} {source : String}
    (refers : filter.fieldRefs = [field])
    (becomes : ∀ names, filter.phrase names =
      Filter.onValues names field operator values caseSensitive)
    (known : metadata earlier (.table table) = .ok source) (timeout : Option Duration) :
    (Query.compile { sourceTable := table, filter := some filter } timeout metadata
        earlier).result.map (·.statement.condition) =
      ((Predicate.textOn (metadata.nameIn (earlier ++ [.table table]) [field] field) operator values
        caseSensitive).mapError CompileError.ofRender).map some := by
  let query : Query := { sourceTable := table, filter := some filter }
  obtain ⟨names, later, resolved, named⟩ :=
    FieldNames.resolve_single metadata (earlier ++ [.table table]) field
  have columns : query.fieldRefs = [field] := by simp [Query.fieldRefs, query, refers]
  have lookUp : query.lookUp metadata earlier =
      ((FieldNames.resolve [field]).andThen fun names => .done (source, names)) metadata
        (earlier ++ [.table table]) := by
    rw [← columns]
    exact Query.lookUp_of_table known
  cases found : metadata.nameIn (earlier ++ [.table table]) [field] field with
  | error cause =>
    rw [found] at resolved
    have failed : query.lookUp metadata earlier = ⟨.error cause, later⟩ := by
      rw [lookUp]
      exact Asking.bind_of_error _ resolved
    rw [Query.compile_of_lookUp_error timeout failed]
    rfl
  | ok column =>
    rw [found] at resolved
    have made : query.lookUp metadata earlier = ⟨.ok (source, names), later⟩ := by
      rw [lookUp]
      exact Asking.bind_of_ok _ resolved
    rw [Query.compile_of_lookUp_ok timeout made, select_filter, becomes, Filter.onValues,
      named column found, Predicate.textOn]
    dsimp only
    cases predicate : Predicate.onField column operator values caseSensitive with
    | error cause => rfl
    | ok phrase =>
      -- A condition without tokens would be left out of the statement.
      have some_token := nonempty_of_trimmed (Predicate.trimmed_onField predicate)
      simp [Except.mapError, Except.map, Select.render, Select.condition?, some_token]

/-- A template that is one reference to a field filter becomes the text of the predicate. -/
theorem substituted_text (timeout : Option Duration) :
    (Template.substituteText "\x7b\x7bp\x7d\x7d"
        [("p", .fieldFilter ⟨field, operator, values, caseSensitive⟩)] timeout metadata
        earlier).result.map (·.text) =
      (Predicate.textOn (metadata.nameIn earlier [field] field) operator values
        caseSensitive).mapError SubstitutionError.ofRender := by
  let params : Params := [("p", .fieldFilter ⟨field, operator, values, caseSensitive⟩)]
  -- Lexing is by well-founded recursion, which only the kernel unfolds.
  have lexed : Lexed.ofText "\x7b\x7bp\x7d\x7d" = ⟨[⟨0, .reference "p"⟩], none⟩ := by
    decide +kernel
  have read : Asking.ofExcept ((Template.ofText "\x7b\x7bp\x7d\x7d").mapError
      SubstitutionError.template) metadata earlier = ⟨.ok [.reference "p"], earlier⟩ := by
    rw [Asking.ofExcept, Template.ofText, lexed]
    rfl
  rw [Template.substituteText, Asking.bind_of_ok _ read]
  obtain ⟨reached, -, ended⟩ :=
    Template.substitute_reaches [.reference "p"] params timeout metadata earlier
  have live : Template.live params [.reference "p"] = [.reference "p"] := rfl
  have column : Template.firstName [.reference "p"] params metadata earlier =
      metadata.nameIn earlier [field] := rfl
  rw [ended, live, column, Template.renderAll_single]
  change Except.map _ (Except.map _ (Param.render (metadata.nameIn earlier [field]) "p"
    (some (.fieldFilter ⟨field, operator, values, caseSensitive⟩)))) = _
  rw [Param.render]
  cases metadata.nameIn earlier [field] field with
  | error cause => rfl
  | ok name =>
    dsimp only [Param.filterText, Predicate.textOn]
    cases predicate : Predicate.onField name operator values caseSensitive with
    | error cause => rfl
    | ok phrase => exact congrArg Except.ok (trim_text (Predicate.trimmed_onField predicate))

end Paths

/-- A compiled query and a substituted template have the same condition, or failed for one reason. -/
inductive SameCondition :
    Except CompileError NativeQuery → Except SubstitutionError SubstitutedQuery → Prop
  | written {native : NativeQuery} {query : SubstitutedQuery}
      (same : native.statement.condition = some query.text) : SameCondition (.ok native) (.ok query)
  | unresolved (cause : LookupError) :
      SameCondition (.error (.unresolved cause)) (.error (.unresolved cause))
  | missingFilterValue (column : String) :
      SameCondition (.error (.missingFilterValue column)) (.error (.missingFilterValue column))

/-- Both outcomes come from the text of one predicate. -/
theorem sameCondition_of_text {found : Except LookupError String} {operator : Operator}
    {values : List Literal} {caseSensitive : Bool} {compiled : Except CompileError NativeQuery}
    {substituted : Except SubstitutionError SubstitutedQuery}
    (condition : compiled.map (·.statement.condition) =
      ((Predicate.textOn found operator values caseSensitive).mapError CompileError.ofRender).map some)
    (text : substituted.map (·.text) =
      (Predicate.textOn found operator values caseSensitive).mapError SubstitutionError.ofRender) :
    SameCondition compiled substituted := by
  cases found with
  | error cause =>
    obtain rfl := Outcome.error_of_map condition
    obtain rfl := Outcome.error_of_map text
    exact .unresolved cause
  | ok column =>
    rcases Predicate.textOn_found column operator values caseSensitive with ⟨made, found⟩ | missing
    · rw [found] at condition text
      obtain ⟨native, rfl, same⟩ := Outcome.ok_of_map condition
      obtain ⟨query, rfl, rfl⟩ := Outcome.ok_of_map text
      exact .written same
    · rw [missing] at condition text
      obtain rfl := Outcome.error_of_map condition
      obtain rfl := Outcome.error_of_map text
      exact .missingFilterValue column

/-- A condition comes to the same text as the filter of a query and as a field filter for a template
with a single reference, or it fails in both for the same reason. The store has to know the table, and
to answer alike for the column, about which it is asked once on either way. -/
theorem filter_paths_agree {operator : Operator} {values : List Json} {column : Json}
    {field : FieldRef} {metadata : Metadata} {earlier later : List Lookup} {table : Int64}
    {source : String} (read : FieldRef.ofJson column = .ok field)
    (scalar : ∀ value ∈ values, value.IsScalar) (takes : operator.Takes values)
    (known : metadata earlier (.table table) = .ok source)
    (alike : ∀ id, field = .byId id →
      metadata (earlier ++ [.table table]) (.field id) = metadata later (.field id))
    (caseSensitive : Bool) (timeout : Option Duration) :
    ∃ params, Params.ofJson
        (.object [("p", filterParam operator field values caseSensitive)]) = .ok params ∧
      SameCondition
        (Query.compileJson (filterQuery table (filterClause operator column values caseSensitive))
          timeout metadata earlier).result
        (Template.substituteText "\x7b\x7bp\x7d\x7d" params timeout metadata later).result := by
  refine ⟨_, param_reads scalar operator field caseSensitive, ?_⟩
  obtain ⟨filter, readFilter, refers, becomes⟩ := clause_reads read scalar takes caseSensitive
  rw [Query.compileJson_of_read (filterQuery_reads readFilter table)]
  have same : metadata.nameIn (earlier ++ [.table table]) [field] field =
      metadata.nameIn later [field] field := by
    cases field with
    | byName name => rfl
    | byId id => rw [Metadata.nameIn_single, Metadata.nameIn_single, alike id rfl]
  refine sameCondition_of_text (compiled_condition refers becomes known timeout) ?_
  rw [same]
  exact substituted_text timeout

/-- A quote within a value, an operator that excludes and a match without regard to case: both paths write
one predicate. -/
theorem lowered_pattern_paths_agree :
    FieldRef.ofJson (.array [.string "field-id", .ofInt64 2]) = .ok (.byId 2) ∧
    Operator.doesNotContain.Takes [.string "It's"] ∧
    (Query.compileJson (filterQuery 5 (filterClause .doesNotContain
        (.array [.string "field-id", .ofInt64 2]) [.string "It's"] false)) none
      Query.twoColumns.metadata []).result.map (·.statement.condition) =
      .ok (some "LOWER(\"c\") NOT LIKE '%it''s%'") ∧
    ∃ params, Params.ofJson
        (.object [("p", filterParam .doesNotContain (.byId 2) [.string "It's"] false)]) = .ok params ∧
      SameCondition
        (Query.compileJson (filterQuery 5 (filterClause .doesNotContain
            (.array [.string "field-id", .ofInt64 2]) [.string "It's"] false)) none
          Query.twoColumns.metadata []).result
        (Template.substituteText "\x7b\x7bp\x7d\x7d" params none Query.twoColumns.metadata
          []).result := by
  have read : FieldRef.ofJson (.array [.string "field-id", .ofInt64 2]) = .ok (.byId 2) := rfl
  have takes : Operator.doesNotContain.Takes [.string "It's"] := rfl
  have scalar : ∀ value ∈ [Json.string "It's"], value.IsScalar :=
    List.forall_mem_singleton.mpr trivial
  have known : Query.twoColumns.metadata [] (.table 5) = .ok "t" := rfl
  have alike : ∀ id, FieldRef.byId 2 = .byId id → Query.twoColumns.metadata ([] ++ [.table 5])
      (.field id) = Query.twoColumns.metadata [] (.field id) := fun _ _ => rfl
  exact ⟨read, takes, rfl, filter_paths_agree read scalar takes known alike false none⟩

end ColumnQuery
