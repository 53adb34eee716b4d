import ColumnQuery.Proofs.Lookups
import ColumnQuery.Query.Compile

/-! The lookups of one compilation. They are planned by the query alone, and nothing is written before
they are made: once all of them were answered, no clause can lack the name of a column. -/
namespace ColumnQuery
open Sql

/-- An outcome other than an unresolved name. -/
def Settles {α : Type} (outcome : Except CompileError α) : Prop :=
  ∀ cause, outcome ≠ .error (.unresolved cause)

section Settles

variable {α β : Type} {outcome : Except CompileError α}

theorem settles_of_ok {value : α} (made : outcome = .ok value) : Settles outcome := by
  intro cause failed
  rw [made] at failed
  cases failed

theorem settles_map (settles : Settles outcome) (f : α → β) : Settles (outcome.map f) :=
  fun cause failed => settles cause (Outcome.error_of_map failed)

/-- What goes on after an outcome that settles, and settles whatever its value, settles. -/
theorem settles_bind {next : α → Except CompileError β} (settles : Settles outcome)
    (goes : ∀ value, Settles (next value)) : Settles (outcome >>= next) := by
  intro cause failed
  cases began : outcome with
  | error other =>
    rw [began] at failed
    cases failed
    exact settles cause began
  | ok value =>
    rw [began] at failed
    exact goes value cause failed

theorem settles_mapM {step : α → Except CompileError β} {inputs : List α}
    (each : ∀ input ∈ inputs, Settles (step input)) : Settles (inputs.mapM step) := by
  intro cause failed
  obtain ⟨before, input, after, rfl, -, fails⟩ := Outcome.error_of_mapM failed
  exact each input (by simp) cause fails

end Settles

/-! ## Clauses over columns with names -/

/-- Every one of the columns has a name. -/
def FieldNames.Names (names : FieldNames) (fields : List FieldRef) : Prop :=
  ∀ field ∈ fields, ∃ name, names.nameOf field = .ok name

section Clauses

variable {names : FieldNames} {field : FieldRef}

theorem names_append {first second : List FieldRef} :
    names.Names (first ++ second) ↔ names.Names first ∧ names.Names second :=
  List.forall_mem_append

theorem identifier_settles (named : ∃ name, names.nameOf field = .ok name) :
    Settles (Aggregation.identifier names field) := by
  obtain ⟨name, found⟩ := named
  have made : Aggregation.identifier names field = .ok [.identifier name] := by
    rw [Aggregation.identifier, FieldNames.identifier, found]
    rfl
  exact settles_of_ok made

theorem subject_settles {aggregation : Aggregation}
    (named : names.Names aggregation.field.toList) : Settles (aggregation.subject names) := by
  unfold Aggregation.subject
  split
  · exact settles_of_ok rfl
  · rintro cause ⟨⟩
  · next field held _ => exact identifier_settles (named field (by simp [held]))

theorem secondArgument_settles {aggregation : Aggregation}
    (named : ∀ field, aggregation.percentile = some (.field field) →
      ∃ name, names.nameOf field = .ok name) : Settles (aggregation.secondArgument names) := by
  unfold Aggregation.secondArgument
  split
  · split
    · rintro cause ⟨⟩
    · next field held => exact settles_map (identifier_settles (named field held)) _
    · exact settles_of_ok rfl
  · exact settles_of_ok rfl

/-- With the names of its columns an aggregation is no matter of lookups any more. -/
theorem item_settles {aggregation : Aggregation} (named : names.Names aggregation.fieldRefs) :
    Settles (aggregation.item names) := by
  obtain ⟨subjectNamed, operandNamed⟩ := names_append.mp named
  have operand : Settles (aggregation.secondArgument names) := by
    refine secondArgument_settles fun field held => operandNamed field ?_
    rw [held]
    exact List.mem_singleton_self field
  exact settles_bind (subject_settles subjectNamed) fun _ =>
    settles_bind operand fun _ => settles_of_ok rfl

theorem onIdentifier_settles (named : names.Names [field]) (rest : Phrase) :
    Settles (Filter.onIdentifier names field rest) := by
  obtain ⟨name, found⟩ := named field (List.mem_singleton_self field)
  have made : Filter.onIdentifier names field rest = .ok ([.identifier name] ++ rest) := by
    rw [Filter.onIdentifier, FieldNames.identifier, found]
    rfl
  exact settles_of_ok made

/-- A predicate may lack a value, but never the name of its column. -/
theorem onValues_settles (named : names.Names [field]) (operator : Operator)
    (values : List Literal) (caseSensitive : Bool) :
    Settles (Filter.onValues names field operator values caseSensitive) := by
  obtain ⟨name, found⟩ := named field (List.mem_singleton_self field)
  intro cause failed
  simp only [Filter.onValues, found, Predicate.onField] at failed
  split at failed
  · cases failed
  · split at failed <;> cases failed

mutual

/-- With the names of its columns a filter is no matter of lookups any more. -/
theorem phrase_settles (filter : Filter) (named : names.Names filter.fieldRefs) :
    Settles (filter.phrase names) := by
  cases filter with
  | compare comparison field value => exact onIdentifier_settles named _
  | between field low high => exact onIdentifier_settles named _
  | member field values negated => exact onValues_settles named _ _ _
  | textMatch kind field value caseSensitive => exact onValues_settles named _ _ _
  | all parts =>
    rw [Filter.phrase]
    split
    · rintro cause ⟨⟩
    · exact settles_map (phrases_settle parts named) _
  | any parts =>
    rw [Filter.phrase]
    split
    · rintro cause ⟨⟩
    · exact settles_map (phrases_settle parts named) _
  | not part => exact settles_map (phrase_settles part named) _

theorem phrases_settle (parts : List Filter) (named : names.Names (Filter.fieldRefsOfAll parts)) :
    Settles (Filter.phrases names parts) := by
  cases parts with
  | nil => exact settles_of_ok rfl
  | cons part rest =>
    obtain ⟨namedFirst, namedRest⟩ := names_append.mp named
    have first := phrase_settles part namedFirst
    have others := phrases_settle rest namedRest
    rw [Filter.phrases]
    split
    · next error failed =>
      rintro cause ⟨⟩
      exact first cause failed
    · exact settles_map others _

end

end Clauses

namespace Query

/-- No clause of a query can lack the name of a column. -/
structure IsResolved (query : Query) (names : FieldNames) : Prop where
  columns : ∀ field ∈ query.fields ++ query.breakout, Settles (Aggregation.identifier names field)
  aggregations : ∀ aggregation ∈ query.aggregations, Settles (aggregation.item names)
  condition : ∀ filter ∈ query.filter, Settles (filter.phrase names)
  sorting : ∀ order ∈ query.orderBy, Settles (sortItem names query.aggregations order)

variable {query : Query} {names : FieldNames} {metadata : Metadata} {earlier later : List Lookup}

theorem isResolved_of_names (named : names.Names query.fieldRefs) : query.IsResolved names := by
  simp only [fieldRefs, names_append] at named
  obtain ⟨⟨⟨⟨inFields, inBreakout⟩, inFilter⟩, inAggregations⟩, inOrder⟩ := named
  refine ⟨?_, ?_, ?_, ?_⟩
  · intro field member
    exact identifier_settles (names_append.mpr ⟨inFields, inBreakout⟩ field member)
  · intro aggregation member
    refine item_settles fun field refers => inAggregations field ?_
    exact List.mem_flatMap.mpr ⟨aggregation, member, refers⟩
  · intro filter present
    refine phrase_settles filter fun field refers => inFilter field ?_
    rw [Option.mem_def.mp present]
    exact refers
  · intro order member
    have named : names.Names order.fieldRefs := fun field refers =>
      inOrder field (List.mem_flatMap.mpr ⟨order, member, refers⟩)
    refine settles_map ?_ _
    obtain ⟨target, direction⟩ := order
    cases target with
    | field field => exact identifier_settles (named field (List.mem_singleton_self field))
    | aggregation index =>
      rw [sortPhrase]
      split
      · exact settles_of_ok rfl
      · rintro cause ⟨⟩

/-- A query whose clauses have the names they need is not rejected for lack of a name. -/
theorem select_settles (resolved : query.IsResolved names) (table : String) :
    Settles (query.select table names) := by
  have columns : Settles (identifiers names
      (if query.fields.isEmpty then query.breakout else query.fields)) := by
    refine settles_mapM fun field member => resolved.columns field (List.mem_append.mpr ?_)
    split at member
    · exact .inr member
    · exact .inl member
  have grouping : Settles (identifiers names query.breakout) :=
    settles_mapM fun field member => resolved.columns field (List.mem_append_right _ member)
  refine settles_bind columns fun _ => settles_bind grouping fun _ => ?_
  refine settles_bind (settles_mapM resolved.aggregations) fun _ => ?_
  refine settles_bind (settles_mapM resolved.sorting) fun _ => ?_
  cases present : query.filter with
  | none => exact settles_of_ok rfl
  | some filter =>
    exact settles_bind (settles_map (resolved.condition filter present) _) fun _ => settles_of_ok rfl

/-! ## The plan -/

/-- The lookups of a query: the table, and then each id once where it first occurs. -/
def lookupPlan (query : Query) : List Lookup :=
  .table query.sourceTable :: FieldRef.lookups query.fieldRefs

/-- The table and then each column, once and in order of first use: the lookups are the plan, up to the
first that fails. -/
theorem lookUp_eq (query : Query) : query.lookUp = do
    let answers ← query.lookupPlan.mapM Asking.ask
    return (answers.headD "", ⟨(FieldRef.distinctIds query.fieldRefs).zip answers.tail⟩) := by
  simp [lookUp, lookupPlan, FieldNames.resolve_eq]

/-- The plan is tried, and when every lookup was answered each column has a name. -/
theorem lookUp_tries (query : Query) (metadata : Metadata) (earlier : List Lookup) :
    ∃ later failure, metadata.Tries earlier query.lookupPlan later failure ∧
      match failure with
      | none => ∃ table names, query.lookUp metadata earlier = ⟨.ok (table, names), later⟩ ∧
          names.Names query.fieldRefs
      | some cause => query.lookUp metadata earlier = ⟨.error cause, later⟩ := by
  obtain ⟨later, failure, tries, ended⟩ := Asking.askEach_tries metadata earlier query.lookupPlan
  refine ⟨later, failure, tries, ?_⟩
  cases failure with
  | some cause =>
    rw [lookUp_eq]
    exact Asking.bind_of_error _ ended
  | none =>
    obtain ⟨answers, ended⟩ := ended
    have found : query.lookUp metadata earlier = ⟨.ok (answers.headD "",
        ⟨(FieldRef.distinctIds query.fieldRefs).zip answers.tail⟩), later⟩ := by
      rw [lookUp_eq]
      exact Asking.bind_of_ok _ ended
    obtain ⟨table, between, -, resolved⟩ := Asking.ok_of_bind found
    obtain ⟨names, after, resolved, last⟩ := Asking.ok_of_bind resolved
    cases last
    exact ⟨_, _, found, (FieldNames.ensureAll_ok resolved).2⟩

/-- The store answers every lookup of a query: the table has this name, and the ids of columns have
these. -/
structure IsAnswered (query : Query) (metadata : Metadata) (earlier : List Lookup) (table : String)
    (name : Int64 → String) : Prop where
  table : metadata earlier (.table query.sourceTable) = .ok table
  columns : metadata.Gives (earlier ++ [.table query.sourceTable]) query.fieldRefs name

theorem lookUp_of_table {table : String}
    (known : metadata earlier (.table query.sourceTable) = .ok table) :
    query.lookUp metadata earlier = ((FieldNames.resolve query.fieldRefs).andThen fun names =>
      .done (table, names)) metadata (earlier ++ [.table query.sourceTable]) :=
  Asking.bind_of_ok _ (Asking.ask_answered known)

/-- What is looked up for an answered query are the names that the store gives. -/
theorem lookUp_answered {table : String} {name : Int64 → String}
    (answered : query.IsAnswered metadata earlier table name) :
    ∃ names, query.lookUp metadata earlier = ⟨.ok (table, names), earlier ++ query.lookupPlan⟩ ∧
      names.Knows query.fieldRefs name := by
  obtain ⟨names, resolved, knows⟩ := FieldNames.resolve_given answered.columns
  refine ⟨names, ?_, knows⟩
  rw [List.append_assoc, List.singleton_append] at resolved
  rw [lookUp_of_table answered.table]
  exact Asking.bind_of_ok _ resolved

/-- A query is compiled only with the names that the store gives. -/
theorem answered_of_lookUp {table : String}
    (found : query.lookUp metadata earlier = ⟨.ok (table, names), later⟩) :
    ∃ name, query.IsAnswered metadata earlier table name ∧ names.Knows query.fieldRefs name := by
  obtain ⟨first, between, asked, goesOn⟩ := Asking.ok_of_bind found
  obtain ⟨others, after, resolved, last⟩ := Asking.ok_of_bind goesOn
  cases last
  have known : metadata earlier (.table query.sourceTable) = .ok table := congrArg Asked.result asked
  obtain rfl : earlier ++ [.table query.sourceTable] = between := congrArg Asked.lookups asked
  obtain ⟨name, gives, knows⟩ := FieldNames.gives_of_resolve resolved
  exact ⟨name, ⟨known, gives⟩, knows⟩

theorem compile_of_lookUp_error {cause : LookupError} (timeout : Option Duration)
    (failed : query.lookUp metadata earlier = ⟨.error cause, later⟩) :
    query.compile timeout metadata earlier = ⟨.error (.unresolved cause), later⟩ := by
  refine Asking.bind_of_error _ ?_
  rw [Asking.mapError, failed]

/-- After the lookups a query is written without any more of them. -/
theorem compile_of_lookUp_ok {table : String} (timeout : Option Duration)
    (found : query.lookUp metadata earlier = ⟨.ok (table, names), later⟩) :
    query.compile timeout metadata earlier = ⟨(query.select table names).map fun statement =>
      { statement := statement.render, options := Options.withTimeout? {} timeout }, later⟩ := by
  have mapped : query.lookUp.mapError CompileError.unresolved metadata earlier =
      ⟨.ok (table, names), later⟩ := by
    rw [Asking.mapError, found]
  rw [compile, Asking.bind_of_ok _ mapped]
  change Asking.andThen (Asking.ofExcept (query.select table names)) _ metadata later = _
  rw [Asking.andThen, Asking.ofExcept]
  cases query.select table names <;> rfl

/-- Compiling what is read as a query is compiling the query. -/
theorem compileJson_of_read {value : Json} (made : Query.ofJson value = .ok query)
    (timeout : Option Duration) (metadata : Metadata) (earlier : List Lookup) :
    compileJson value timeout metadata earlier = query.compile timeout metadata earlier := by
  refine Asking.bind_of_ok _ ?_
  rw [Asking.ofExcept, made]

/-- The lookups of a compilation are those planned, up to the first that fails, and a failed lookup is
the only way for a name to be unresolved. Once all lookups were answered no clause can lack a name,
and a store matters only by its answers to the plan. -/
theorem compilation_tries_plan (query : Query) (timeout : Option Duration) (metadata : Metadata)
    (earlier : List Lookup) :
    query.lookupPlan.Nodup ∧ ∃ failure,
      metadata.Tries earlier query.lookupPlan (query.compile timeout metadata earlier).lookups
        failure ∧
      (∀ cause, (query.compile timeout metadata earlier).result = .error (.unresolved cause) ↔
        failure = some cause) ∧
      (failure = none → ∃ table names,
        (query.lookUp metadata earlier).result = .ok (table, names) ∧ query.IsResolved names) ∧
      ∀ other, metadata.AgreesOn other earlier query.lookupPlan →
        query.compile timeout metadata earlier = query.compile timeout other earlier := by
  have planned : query.lookupPlan.Nodup := by
    refine List.nodup_cons.mpr ⟨?_, FieldRef.nodup_lookups _⟩
    simp [FieldRef.lookups]
  have agree (other : Metadata) (agree : metadata.AgreesOn other earlier query.lookupPlan) :
      query.compile timeout metadata earlier = query.compile timeout other earlier := by
    have same : query.lookUp metadata earlier = query.lookUp other earlier := by
      rw [lookUp_eq]
      exact Asking.bind_agrees (Asking.askEach_agree agree) fun _ _ _ => rfl
    refine Asking.bind_agrees ?_ fun _ _ _ => Asking.bind_agrees rfl fun _ _ _ => rfl
    rw [Asking.mapError, Asking.mapError, same]
  obtain ⟨later, failure, tries, ended⟩ := lookUp_tries query metadata earlier
  refine ⟨planned, failure, ?_⟩
  cases failure with
  | some cause =>
    rw [compile_of_lookUp_error timeout ended]
    refine ⟨tries, ?_, by simp, fun other agrees => ?_⟩
    · simp
    · rw [← agree other agrees, compile_of_lookUp_error timeout ended]
  | none =>
    obtain ⟨table, names, found, named⟩ := ended
    have resolved := isResolved_of_names named
    refine ⟨?_, ?_, fun _ => ⟨table, names, by rw [found], resolved⟩, agree⟩
    · rw [compile_of_lookUp_ok timeout found]
      exact tries
    · intro cause
      rw [compile_of_lookUp_ok timeout found]
      simpa using settles_map (select_settles resolved table) _ cause

/-- A query that names one column twice, and another that no catalog below knows. -/
def repeatedColumn : Query where
  sourceTable := 5
  fields := [.byId 1, .byName "b", .byId 2]
  breakout := [.byId 1]
  filter := some (.not (.any [.compare .equal (.byId 2) .null, .compare .less (.byId 3) .null]))
  orderBy := [⟨.field (.byId 4), .ascending⟩]

def twoColumns : Catalog where
  tables := [(5, "t")]
  fields := [(1, "a"), (2, "c")]

/-- The catalog with one more name, which the query does not need. -/
def threeColumns : Catalog :=
  twoColumns.addField 9 "d"

/-- A query with columns in several clauses, over two stores that agree on its plan: the third column has
no name, and the lookups stop there. -/
theorem repeated_column_tries_plan :
    repeatedColumn.lookupPlan = [.table 5, .field 1, .field 2, .field 3, .field 4] ∧
    twoColumns.metadata.AgreesOn threeColumns.metadata [] repeatedColumn.lookupPlan ∧
    repeatedColumn.compile none threeColumns.metadata [] =
      ⟨.error (.unresolved (.fieldNotFound 3)), [.table 5, .field 1, .field 2, .field 3]⟩ := by
  have plan : repeatedColumn.lookupPlan = [.table 5, .field 1, .field 2, .field 3, .field 4] := by
    decide +kernel
  have agrees : twoColumns.metadata.AgreesOn threeColumns.metadata [] repeatedColumn.lookupPlan := by
    intro before lookup after split
    have member : lookup ∈ repeatedColumn.lookupPlan := by simp [split]
    simp only [plan, List.mem_cons, List.not_mem_nil, or_false] at member
    rcases member with rfl | rfl | rfl | rfl | rfl <;> rfl
  obtain ⟨-, failure, -, -, -, agree⟩ :=
    compilation_tries_plan repeatedColumn none twoColumns.metadata []
  refine ⟨plan, agrees, ?_⟩
  rw [← agree threeColumns.metadata agrees]
  rfl

end Query

end ColumnQuery
