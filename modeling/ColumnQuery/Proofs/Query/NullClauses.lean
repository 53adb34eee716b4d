import ColumnQuery.Proofs.Keyed
import ColumnQuery.Proofs.Query.Reading

/-! Clauses that are null. Where a clause of a query may be left out, null in its place is read as if it
were left out, except that null is nothing to sort by: it is a fault there, which is met as soon as the
clauses before the sorting are read. -/
namespace ColumnQuery
open Sql

/-! ## Changing a query map -/

namespace Json

/-- A query map with its body changed. Where there is no body, there is nothing to change. -/
def withBody (edit : Keyed Json → Keyed Json) (map : Json) : Json :=
  match map with
  | .object outer =>
    match Keyed.find? outer "query" with
    | some (.object body) => .object (Keyed.insert "query" (.object (edit body)) outer)
    | _ => map
  | _ => map

/-- A query map with null for a clause. -/
def withNull (clause : String) (map : Json) : Json :=
  map.withBody (Keyed.insert clause .null)

/-- A query map with some clauses left out. -/
def withoutClauses (clauses : List String) (map : Json) : Json :=
  map.withBody (Keyed.without clauses)

/-- Whether a query map is read without fault up to what its rows are sorted by. -/
def ReadsUpToSorting (map : Json) : Prop :=
  ∃ query, Query.ofJson (map.withoutClauses ["order-by", "limit", "page"]) = .ok query

end Json

/-! ## Null and nothing -/

/-- What is given for a clause, where null is nothing. -/
def Json.given? : Option Json → Option Json
  | some .null => none
  | value => value

/-- A reader to which null is nothing tells no values apart that are given alike. -/
theorem reads_alike {α : Type} (read : Option Json → α) (empty : read (some .null) = read none)
    {value other : Option Json} (alike : Json.given? value = Json.given? other) :
    read value = read other := by
  have given (value : Option Json) : read (Json.given? value) = read value := by
    fun_cases Json.given? value with
    | case1 => exact empty.symm
    | case2 => rfl
  rw [← given value, alike, given other]

namespace Query

open Json (given?)

/-! ## Reading in two parts -/

/-- Reads a filter that may be null. -/
def filterOfJson : Json → Except CompileError (Option Filter)
  | .null => .ok none
  | value => (Filter.ofJson value).map some

/-- Reads the clauses that stand before the sorting. -/
def readClauses (database : Option Int64) (body : Keyed Json) : Except CompileError Query := do
  let sourceTable ←
    match (body.find? "source-table").bind Json.int64? with
    | some table => .ok table
    | none => reject .sourceTable
  let fields ← clauseOfJson (body.find? "fields") [] (fieldsOfJson "fields")
  let breakout ← clauseOfJson (body.find? "breakout") [] (fieldsOfJson "breakout")
  let aggregations ← clauseOfJson (body.find? "aggregation") [] aggregationsOfJson
  let filter ← clauseOfJson (body.find? "filter") none filterOfJson
  return { database, sourceTable, fields, breakout, aggregations, filter }

/-- Reads the sorting and what stands behind it: the limit and the page. -/
def readSorting (query : Query) (body : Keyed Json) : Except CompileError Query := do
  let orderBy ← clauseOfJson (body.find? "order-by") []
    (sortOrdersOfJson query.aggregations.length)
  let limit ← countOfJson "limit" (body.find? "limit")
  let (limit, page) ← pageOfJson (body.find? "page") limit
  return { query with orderBy, limit, page }

theorem ofBody_eq (database : Option Int64) (body : Keyed Json) :
    ofBody database body = readClauses database body >>= fun query => query.readSorting body := by
  unfold ofBody readClauses
  dsimp only
  cases (body.find? "source-table").bind Json.int64? with
  | none => rfl
  | some table =>
    simp only [bind_assoc]
    rfl

section Bodies

variable {body other : Keyed Json}

/-- Whether the same is given in two bodies for each of some clauses. -/
def GiveAlike (clauses : List String) (body other : Keyed Json) : Prop :=
  ∀ clause ∈ clauses, given? (body.find? clause) = given? (other.find? clause)

theorem readClauses_of_alike (database : Option Int64)
    (alike : GiveAlike ["source-table", "fields", "breakout", "aggregation", "filter"] body other) :
    readClauses database body = readClauses database other := by
  simp only [GiveAlike, List.forall_mem_cons] at alike
  obtain ⟨table, fields, breakout, aggregations, filter, -⟩ := alike
  have clause {α : Type} {absent : α} {name : String} (read : Json → Except CompileError α)
      (empty : read .null = .ok absent) (same : given? (body.find? name) = given? (other.find? name)) :
      clauseOfJson (body.find? name) absent read = clauseOfJson (other.find? name) absent read :=
    reads_alike (clauseOfJson · absent read) empty same
  have tables : (body.find? "source-table").bind Json.int64? =
      (other.find? "source-table").bind Json.int64? := reads_alike (·.bind Json.int64?) rfl table
  unfold readClauses
  rw [tables, clause (fieldsOfJson "fields") rfl fields, clause (fieldsOfJson "breakout") rfl breakout,
    clause aggregationsOfJson rfl aggregations, clause filterOfJson rfl filter]

/-- Reading how rows are sorted looks at three clauses only. -/
theorem readSorting_of_alike (query : Query) (alike : GiveAlike ["limit", "page"] body other)
    (sorting : body.find? "order-by" = other.find? "order-by") :
    query.readSorting body = query.readSorting other := by
  simp only [GiveAlike, List.forall_mem_cons] at alike
  obtain ⟨limit, page, -⟩ := alike
  have counts : countOfJson "limit" (body.find? "limit") = countOfJson "limit" (other.find? "limit") :=
    reads_alike (countOfJson "limit") rfl limit
  have pages (limit : Option UInt64) : pageOfJson (body.find? "page") limit =
      pageOfJson (other.find? "page") limit := reads_alike (pageOfJson · limit) rfl page
  unfold readSorting
  simp only [sorting, counts, pages]

/-- Null for a clause gives the same as the clause left out. -/
theorem null_gives_nothing (clauses : List String) (clause : String) (body : Keyed Json) :
    GiveAlike clauses (Keyed.insert clause .null body) (Keyed.without [clause] body) := by
  intro name _
  rw [Keyed.find?_insert, Keyed.find?_without]
  by_cases same : name = clause
  · rw [if_pos same, if_pos (List.mem_singleton.mpr same)]
    rfl
  · rw [if_neg same, if_neg (same ∘ List.mem_singleton.mp)]

/-- Null for a clause other than the sorting is read as if the clause were left out. -/
theorem ofBody_null {clause : String} (unsorted : clause ≠ "order-by") (database : Option Int64)
    (body : Keyed Json) : ofBody database (Keyed.insert clause .null body) =
      ofBody database (Keyed.without [clause] body) := by
  have sorting : (Keyed.insert clause .null body).find? "order-by" =
      (Keyed.without [clause] body).find? "order-by" := by
    rw [Keyed.find?_insert, Keyed.find?_without, if_neg unsorted.symm,
      if_neg (unsorted.symm ∘ List.mem_singleton.mp)]
  rw [ofBody_eq, ofBody_eq, readClauses_of_alike database (null_gives_nothing _ clause body)]
  congr 1
  funext query
  exact query.readSorting_of_alike (null_gives_nothing _ clause body) sorting

/-! ## Null for the sorting -/

/-- A null is no list of sort orders. -/
theorem readSorting_null (query : Query) (body : Keyed Json) :
    query.readSorting (Keyed.insert "order-by" .null body) = reject (.notAList "order-by") := by
  rw [readSorting, Keyed.find?_insert]
  rfl

theorem count_is_no_list (name other : String) (value : Option Json) :
    countOfJson name value ≠ reject (.notAList other) := by
  fun_cases countOfJson name value <;> simp [reject]

theorem pageNumber_is_no_list (name : String) (value : Option Json) :
    pageNumberOfJson value ≠ reject (.notAList name) := by
  rw [pageNumberOfJson]
  split
  · split <;> simp [reject]
  · simp [reject]

theorem page_is_no_list (name : String) (value : Option Json) (limit : Option UInt64) :
    pageOfJson value limit ≠ reject (.notAList name) := by
  intro failed
  fun_cases pageOfJson value limit with
  | case1 => cases failed
  | case2 => cases failed
  | case3 members =>
    rcases Outcome.error_of_bind failed with unnumbered | ⟨page, -, failed⟩
    · exact pageNumber_is_no_list name _ unnumbered
    · rcases Outcome.error_of_bind failed with uncounted | ⟨items, -, failed⟩
      · exact count_is_no_list _ name _ uncounted
      · cases failed
  | case4 value present single =>
    rw [pageOfJson] at failed
    · exact pageNumber_is_no_list name _ (Outcome.error_of_map failed)
    · exact present
    · exact single

/-- Without a sorting no fault is about the sorting. -/
theorem readSorting_unsorted (query : Query) (body : Keyed Json) :
    query.readSorting (Keyed.without ["order-by"] body) ≠ reject (.notAList "order-by") := by
  intro failed
  rw [readSorting, Keyed.find?_without, if_pos (List.mem_singleton.mpr rfl), clauseOfJson] at failed
  rcases Outcome.error_of_bind failed with absent | ⟨orderBy, -, failed⟩
  · cases absent
  · rcases Outcome.error_of_bind failed with uncounted | ⟨limit, -, failed⟩
    · exact count_is_no_list _ _ _ uncounted
    · rcases Outcome.error_of_bind failed with unpaged | ⟨page, -, failed⟩
      · exact page_is_no_list _ _ _ unpaged
      · cases failed

/-- Without the three clauses there is nothing to refuse. -/
theorem readSorting_bare (query : Query) (body : Keyed Json) : ∃ read,
    query.readSorting (Keyed.without ["order-by", "limit", "page"] body) = .ok read := by
  simp only [readSorting, Keyed.find?_without]
  exact ⟨_, rfl⟩

/-- With null for the sorting a body is refused for the first fault before the sorting, and for the null
if there is none. -/
theorem ofBody_null_sorting (database : Option Int64) (body : Keyed Json) :
    (∃ fault, ofBody database (Keyed.insert "order-by" .null body) = .error fault ∧
      ofBody database (Keyed.without ["order-by"] body) = .error fault ∧
      ofBody database (Keyed.without ["order-by", "limit", "page"] body) = .error fault) ∨
    ofBody database (Keyed.insert "order-by" .null body) = reject (.notAList "order-by") ∧
      ofBody database (Keyed.without ["order-by"] body) ≠ reject (.notAList "order-by") ∧
      ∃ query, ofBody database (Keyed.without ["order-by", "limit", "page"] body) = .ok query := by
  have withNull := readClauses_of_alike database (null_gives_nothing _ "order-by" body)
  have without : readClauses database (Keyed.without ["order-by", "limit", "page"] body) =
      readClauses database (Keyed.without ["order-by"] body) := by
    apply readClauses_of_alike
    simp [GiveAlike, Keyed.find?_without]
  rw [ofBody_eq, ofBody_eq, ofBody_eq, withNull, without]
  cases readClauses database (Keyed.without ["order-by"] body) with
  | error fault => exact .inl ⟨fault, rfl, rfl, rfl⟩
  | ok query =>
    exact .inr ⟨query.readSorting_null body, query.readSorting_unsorted body,
      query.readSorting_bare body⟩

end Bodies

/-! ## Query maps -/

/-- Checks the type of a query map, if it has one. -/
def checkType (outer : Keyed Json) : Except CompileError Unit :=
  match (outer.find? "type").bind Json.string? with
  | some kind => if kind = "query" then .ok () else reject (.wrongType kind)
  | none => .ok ()

/-- Reads the body of a query map. -/
def bodyOfJson (outer : Keyed Json) : Except CompileError Query :=
  match outer.find? "query" with
  | none => reject .noBody
  | some body => do
    let body ← membersOfJson "query body" body
    ofBody ((outer.find? "database").bind Json.int64?) body

theorem ofJson_object (outer : Keyed Json) :
    ofJson (.object outer) = checkType outer >>= fun _ => bodyOfJson outer := by
  refine (Outcome.bind_of_ok _ rfl).trans ?_
  rw [checkType]
  cases (outer.find? "type").bind Json.string? with
  | none => rfl
  | some kind =>
    dsimp only
    by_cases own : kind = "query"
    · rw [if_pos own, if_pos own]
      rfl
    · rw [if_neg own, if_neg own]
      rfl

/-- What stands around the body of a query map is read alike whatever the body is. -/
theorem ofJson_insert_body (outer body : Keyed Json) :
    ofJson (.object (Keyed.insert "query" (.object body) outer)) =
      checkType outer >>= fun _ => ofBody ((outer.find? "database").bind Json.int64?) body := by
  have typed : checkType (Keyed.insert "query" (.object body) outer) = checkType outer := by
    rw [checkType, checkType, Keyed.find?_insert, if_neg (by decide)]
  have whole : bodyOfJson (Keyed.insert "query" (.object body) outer) =
      ofBody ((outer.find? "database").bind Json.int64?) body := by
    rw [bodyOfJson, Keyed.find?_insert, Keyed.find?_insert, if_pos rfl, if_neg (by decide)]
    rfl
  rw [ofJson_object, typed, whole]

theorem withBody_bodiless {map : Json} (bodiless : ¬ ∃ outer body, map = .object outer ∧
    Keyed.find? outer "query" = some (.object body)) (edit : Keyed Json → Keyed Json) :
    map.withBody edit = map := by
  fun_cases Json.withBody edit map with
  | case1 outer body held => exact absurd ⟨outer, body, rfl, held⟩ bodiless
  | case2 => rfl
  | case3 => rfl

/-- A query map is refused for what stands around its body, or its body decides. -/
theorem ofJson_withBody (map : Json) :
    (∃ fault, ∀ edit, ofJson (map.withBody edit) = .error fault) ∨
      ∃ database body, ∀ edit, ofJson (map.withBody edit) = ofBody database (edit body) := by
  by_cases embodied : ∃ outer body, map = .object outer ∧
      Keyed.find? outer "query" = some (.object body)
  · obtain ⟨outer, body, rfl, held⟩ := embodied
    simp only [Json.withBody, held, ofJson_insert_body]
    cases checkType outer with
    | error fault => exact .inl ⟨fault, fun edit => rfl⟩
    | ok _ => exact .inr ⟨_, body, fun edit => rfl⟩
  · simp only [withBody_bodiless embodied]
    cases read : ofJson map with
    | error fault => exact .inl ⟨fault, fun edit => rfl⟩
    | ok query =>
      obtain ⟨outer, body, whole, held, -⟩ := query_read read
      exact absurd ⟨outer, body, whole, held⟩ embodied

/-- With null for the sorting a query map is refused for the first fault before the sorting, and for the
null if there is none. That is never why a query map without a sorting is refused. -/
theorem ofJson_null_sorting (map : Json) :
    (∃ fault, ofJson (map.withNull "order-by") = .error fault ∧
      ofJson (map.withoutClauses ["order-by"]) = .error fault ∧ ¬ map.ReadsUpToSorting) ∨
    ofJson (map.withNull "order-by") = reject (.notAList "order-by") ∧
      ofJson (map.withoutClauses ["order-by"]) ≠ reject (.notAList "order-by") ∧
      map.ReadsUpToSorting := by
  simp only [Json.ReadsUpToSorting, Json.withNull, Json.withoutClauses]
  rcases ofJson_withBody map with ⟨fault, refused⟩ | ⟨database, body, decides⟩
  · exact .inl ⟨fault, refused _, refused _, by simp [refused]⟩
  · simp only [decides]
    rcases ofBody_null_sorting database body with ⟨fault, null, absent, bare⟩ | sorted
    · exact .inl ⟨fault, null, absent, by simp [bare]⟩
    · exact .inr sorted

/-- Null for a clause is read as if the clause were left out, whatever the other clauses are, unless it
stands for the sorting and nothing is wrong before that. There null is refused as being no list. -/
theorem null_is_absent_unless_sorted_by (clause : String) (map : Json) :
    (ofJson (map.withNull clause) = ofJson (map.withoutClauses [clause]) ↔
      ¬ (clause = "order-by" ∧ map.ReadsUpToSorting)) ∧
    (map.ReadsUpToSorting → ofJson (map.withNull "order-by") = reject (.notAList "order-by")) := by
  have sorting := ofJson_null_sorting map
  refine ⟨?_, fun reads => ?_⟩
  · by_cases sorted : clause = "order-by"
    · subst sorted
      rcases sorting with ⟨fault, null, absent, unread⟩ | ⟨null, absent, reads⟩
      · exact iff_of_true (null.trans absent.symm) fun both => unread both.2
      · exact iff_of_false (fun same => absent (same.symm.trans null)) fun other => other ⟨rfl, reads⟩
    · refine iff_of_true ?_ fun both => sorted both.1
      rcases ofJson_withBody map with ⟨fault, refused⟩ | ⟨database, body, decides⟩
      · exact (refused _).trans (refused _).symm
      · exact (decides _).trans ((ofBody_null sorted database body).trans (decides _).symm)
  · rcases sorting with ⟨fault, null, absent, unread⟩ | ⟨null, absent, reads⟩
    · exact absurd reads unread
    · exact null

/-- A query map with null for its fields, a limit that cannot be read and no page that there is. -/
def pagedMap : Json :=
  .object [("query", .object
    [("fields", .null), ("limit", .string "x"), ("page", .ofWord 0), ("source-table", .ofInt64 1)])]

/-- With null for the page and without the page this map is refused alike, for its limit. With null to
sort by it is refused for the null. -/
theorem paged_map_is_read_alike :
    ofJson (pagedMap.withNull "page") = ofJson (pagedMap.withoutClauses ["page"]) ∧
      pagedMap.ReadsUpToSorting ∧
      ofJson (pagedMap.withNull "order-by") = reject (.notAList "order-by") := by
  have reads : pagedMap.ReadsUpToSorting := ⟨_, rfl⟩
  have page := null_is_absent_unless_sorted_by "page" pagedMap
  exact ⟨page.1.mpr (by simp), reads, page.2 reads⟩

/-- A query for all rows of a table. -/
def plainMap : Json :=
  .object [("query", .object [("source-table", .ofInt64 1)])]

/-- Null to sort by makes the query a faulty one, though it is read when nothing is said of sorting. -/
theorem null_sorting_is_refused :
    ofJson (plainMap.withNull "order-by") = .error (.invalidQuery (.notAList "order-by")) ∧
      ofJson (plainMap.withoutClauses ["order-by"]) = .ok { sourceTable := 1 } :=
  ⟨rfl, rfl⟩

end Query

end ColumnQuery
