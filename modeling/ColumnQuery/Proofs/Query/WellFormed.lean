import ColumnQuery.Proofs.Decimal.Nearest
import ColumnQuery.Proofs.Outcome
import ColumnQuery.Proofs.Query.Alias
import ColumnQuery.Proofs.Query.Reading

/-! Well-formed queries, and that reading makes no others. Whatever a query map holds, a query that is
read from it has a filter without empty groups, aggregations with the arguments of their kinds and
distinct plain names, and no order by an aggregation that it lacks. -/
namespace ColumnQuery
open Sql

/-- Literals that a JSON number stands for. -/
def Sql.Literal.IsNumber : Literal → Prop
  | .integer _ => True
  | .real value => value.isFinite = true
  | _ => False

/-- Literals that a JSON scalar stands for. -/
def Sql.Literal.IsScalar : Literal → Prop
  | .null => True
  | .text _ => True
  | .boolean _ => True
  | literal => literal.IsNumber

/-- A filter compares with scalars, joins at least one condition in each group, and searches at least
two values where it searches any. -/
inductive Filter.IsWellFormed : Filter → Prop
  | compare (comparison : Comparison) (field : FieldRef) {value : Literal} (scalar : value.IsScalar) :
      IsWellFormed (.compare comparison field value)
  | between (field : FieldRef) {low high : Literal} (low_scalar : low.IsScalar)
      (high_scalar : high.IsScalar) : IsWellFormed (.between field low high)
  | member (field : FieldRef) (negated : Bool) {values : List Literal} (several : 2 ≤ values.length)
      (scalar : ∀ value ∈ values, value.IsScalar) : IsWellFormed (.member field values negated)
  | textMatch (kind : TextMatch) (field : FieldRef) (caseSensitive : Bool) {value : Literal}
      (scalar : value.IsScalar) : IsWellFormed (.textMatch kind field value caseSensitive)
  | all {parts : List Filter} (nonempty : parts ≠ []) (each : ∀ part ∈ parts, IsWellFormed part) :
      IsWellFormed (.all parts)
  | any {parts : List Filter} (nonempty : parts ≠ []) (each : ∀ part ∈ parts, IsWellFormed part) :
      IsWellFormed (.any parts)
  | not {part : Filter} (inner : IsWellFormed part) : IsWellFormed (.not part)

/-- A percentile is that of a column or a number. -/
def Percentile.IsOperand : Percentile → Prop
  | .field _ => True
  | .value literal => literal.IsNumber

/-- An aggregation has the arguments of its kind: everything or a column to count, a column and an
operand for a percentile, and a column alone for every other kind. -/
def Aggregation.IsComplete (aggregation : Aggregation) : Prop :=
  match aggregation.kind with
  | .count => aggregation.percentile = none
  | .percentile => aggregation.field.isSome ∧
      ∃ operand, aggregation.percentile = some operand ∧ operand.IsOperand
  | _ => aggregation.field.isSome ∧ aggregation.percentile = none

/-- A sort by an aggregation has a position, which is a word, below the number of aggregations. -/
def SortTarget.IsWithin (aggregations : Nat) : SortTarget → Prop
  | .field _ => True
  | .aggregation index => index < aggregations ∧ index < UInt64.size

/-- The queries that can be read. -/
structure Query.IsWellFormed (query : Query) : Prop where
  page_positive : ∀ page ∈ query.page, 1 ≤ page
  condition : ∀ filter ∈ query.filter, filter.IsWellFormed
  complete : ∀ aggregation ∈ query.aggregations, aggregation.IsComplete
  plain : ∀ aggregation ∈ query.aggregations, Alias.IsPlain aggregation.resultName
  distinct : (query.aggregations.map (·.resultName)).Nodup
  within : ∀ order ∈ query.orderBy, order.target.IsWithin query.aggregations.length

/-! ## Values -/

theorem int64_none_iff {value : Int} {low high} :
    (Json.Number.integer value low high).int64? = none ↔ 0x8000000000000000 ≤ value := by
  rw [Json.Number.int64?]
  split <;> simp <;> omega

/-- Beyond the signed words an integer is no longer negative, and its double is finite. -/
theorem number_isFinite {n : Json.Number} (large : n.int64? = none) :
    n.toBinary64.isFinite = true := by
  cases n with
  | real value finite => exact finite
  | integer value low high =>
    rw [int64_none_iff] at large
    rw [Json.Number.toBinary64, if_neg (by omega)]
    have word : value.natAbs < 0x10000000000000000 := by omega
    exact Binary64.ofNat_isFinite word

theorem literal_of_number {n : Json.Number} {literal : Literal}
    (made : Literal.ofJson? (.number n) = some literal) : literal.IsNumber := by
  rw [Literal.ofJson?] at made
  cases word : n.int64? with
  | some value =>
    rw [word] at made
    cases made
    trivial
  | none =>
    rw [word] at made
    cases made
    exact number_isFinite word

theorem scalar_of_number {literal : Literal} (number : literal.IsNumber) : literal.IsScalar := by
  cases literal with
  | integer value => exact number
  | real value => exact number
  | _ => exact number.elim

/-- What is read from JSON as a literal is a scalar. -/
theorem literal_isScalar {value : Json} {literal : Literal}
    (made : Literal.ofJson? value = some literal) : literal.IsScalar := by
  cases value with
  | number n => exact scalar_of_number (literal_of_number made)
  | array items => cases made
  | object members => cases made
  | _ =>
    cases made
    trivial

theorem filterValue_isScalar {value : Json} {literal : Literal}
    (made : filterValueOfJson value = .ok literal) : literal.IsScalar := by
  fun_induction filterValueOfJson value with
  | case1 value scalar given =>
    cases made
    exact literal_isScalar given
  | case2 inner others read ih => exact ih made
  | case3 => cases made
  | case4 => cases made

/-- A number is compared with as the literal that it is. -/
theorem number_value {n : Json.Number} {literal : Literal}
    (made : filterValueOfJson (.number n) = .ok literal) :
    Literal.ofJson? (.number n) = some literal := by
  unfold filterValueOfJson at made
  split at made
  · next given =>
    cases made
    exact given
  · cases made

/-! ## Filters -/

/-- What is read as an equality compares with one scalar, or with several. -/
theorem equality_isWellFormed {head : String} {negated : Bool} {args : List Json} {filter : Filter}
    (made : Filter.equalityOfJson head negated args = .ok filter) : filter.IsWellFormed := by
  cases args with
  | nil => cases made
  | cons field values =>
    obtain ⟨field, -, made⟩ := Outcome.ok_of_bind made
    obtain ⟨values, read, made⟩ := Outcome.ok_of_bind made
    have scalar := Outcome.each_of_mapM read filterValue_isScalar
    match values with
    | [] => cases made
    | [value] =>
      cases made
      exact .compare _ field (scalar value (.head _))
    | first :: second :: others =>
      cases made
      exact .member field negated (by simp) scalar

theorem between_isWellFormed {args : List Json} {filter : Filter}
    (made : Filter.betweenOfJson args = .ok filter) : filter.IsWellFormed := by
  unfold Filter.betweenOfJson at made
  split at made
  · obtain ⟨field, -, made⟩ := Outcome.ok_of_bind made
    obtain ⟨low, readLow, made⟩ := Outcome.ok_of_bind made
    obtain ⟨high, readHigh, made⟩ := Outcome.ok_of_bind made
    cases made
    exact .between field (filterValue_isScalar readLow) (filterValue_isScalar readHigh)
  · cases made

theorem binary_isWellFormed {head : String} {args : List Json} {filter : Filter}
    (made : Filter.binaryOfJson head args = .ok filter) : filter.IsWellFormed := by
  unfold Filter.binaryOfJson at made
  split at made
  · next comparison _ =>
    split at made
    · obtain ⟨field, -, made⟩ := Outcome.ok_of_bind made
      obtain ⟨value, read, made⟩ := Outcome.ok_of_bind made
      cases made
      exact .compare comparison field (filterValue_isScalar read)
    · cases made
  · next kind _ _ =>
    split at made
    · obtain ⟨field, -, made⟩ := Outcome.ok_of_bind made
      obtain ⟨value, read, made⟩ := Outcome.ok_of_bind made
      cases made
      exact .textMatch kind field true (filterValue_isScalar read)
    · obtain ⟨field, -, made⟩ := Outcome.ok_of_bind made
      obtain ⟨value, read, made⟩ := Outcome.ok_of_bind made
      obtain ⟨caseSensitive, -, made⟩ := Outcome.ok_of_bind made
      cases made
      exact .textMatch kind field caseSensitive (filterValue_isScalar read)
    · cases made
  · cases made

theorem filters_cons {value : Json} {rest : List Json} {parts : List Filter}
    (made : Filter.listOfJson (value :: rest) = .ok parts) : ∃ first others,
      Filter.ofJson value = .ok first ∧ Filter.listOfJson rest = .ok others ∧
        parts = first :: others := by
  rw [Filter.listOfJson] at made
  split at made
  · cases made
  · next first read =>
    obtain ⟨others, following, rfl⟩ := Outcome.ok_of_map made
    exact ⟨first, others, read, following, rfl⟩

/-- A group that is read has parts, each of which was read. -/
theorem filter_group {word : String} {args : List Json} {group : List Filter → Filter}
    {filter : Filter} (made : (if args.isEmpty then rejectFilter (.noClause word)
      else (Filter.listOfJson args).map group) = .ok filter) :
    ∃ parts, args ≠ [] ∧ Filter.listOfJson args = .ok parts ∧ filter = group parts := by
  cases args with
  | nil => cases made
  | cons value rest =>
    obtain ⟨parts, read, rfl⟩ := Outcome.ok_of_map made
    exact ⟨parts, List.cons_ne_nil value rest, read, rfl⟩

/-- A filter that was read is a group of filters, the negation of one, or well-formed by itself. -/
theorem filter_clause {head : String} {args : List Json} {filter : Filter}
    (made : Filter.ofJson (.array (.string head :: args)) = .ok filter) :
    (∃ parts, args ≠ [] ∧ Filter.listOfJson args = .ok parts ∧
      (filter = .all parts ∨ filter = .any parts)) ∨
    (∃ value part, args = [value] ∧ Filter.ofJson value = .ok part ∧ filter = .not part) ∨
    filter.IsWellFormed := by
  unfold Filter.ofJson at made
  by_cases isAnd : head = "and"
  · rw [if_pos isAnd] at made
    obtain ⟨parts, given, read, same⟩ := filter_group made
    exact .inl ⟨parts, given, read, .inl same⟩
  rw [if_neg isAnd] at made
  by_cases isOr : head = "or"
  · rw [if_pos isOr] at made
    obtain ⟨parts, given, read, same⟩ := filter_group made
    exact .inl ⟨parts, given, read, .inr same⟩
  rw [if_neg isOr] at made
  by_cases isNot : head = "not"
  · rw [if_pos isNot] at made
    split at made
    · next value =>
      obtain ⟨part, read, rfl⟩ := Outcome.ok_of_map made
      exact .inr (.inl ⟨value, part, rfl, read, rfl⟩)
    · cases made
  rw [if_neg isNot] at made
  refine .inr (.inr ?_)
  split at made
  · exact between_isWellFormed made
  · split at made
    · exact equality_isWellFormed made
    · split at made
      · exact equality_isWellFormed made
      · exact binary_isWellFormed made

mutual

/-- Every filter that is read is well formed, and so are its parts. -/
theorem filter_isWellFormed (value : Json) {filter : Filter}
    (made : Filter.ofJson value = .ok filter) : filter.IsWellFormed := by
  cases value with
  | array items =>
    cases items with
    | nil => cases made
    | cons first args =>
      cases first with
      | string head =>
        rcases filter_clause made with group | ⟨inner, part, rfl, read, rfl⟩ | direct
        · obtain ⟨parts, given, read, shape⟩ := group
          have each := filters_areWellFormed args read
          have nonempty : parts ≠ [] := by
            cases args with
            | nil => exact absurd rfl given
            | cons value rest =>
              obtain ⟨first, others, -, -, rfl⟩ := filters_cons read
              exact List.cons_ne_nil first others
          rcases shape with rfl | rfl
          · exact .all nonempty each
          · exact .any nonempty each
        · exact .not (filter_isWellFormed inner read)
        · exact direct
      | _ => cases made
  | _ => cases made

theorem filters_areWellFormed (values : List Json) {parts : List Filter}
    (made : Filter.listOfJson values = .ok parts) : ∀ part ∈ parts, part.IsWellFormed := by
  match values with
  | [] =>
    cases made
    simp
  | value :: rest =>
    obtain ⟨first, others, read, following, rfl⟩ := filters_cons made
    exact List.forall_mem_cons.mpr
      ⟨filter_isWellFormed value read, filters_areWellFormed rest following⟩

end

/-! ## Aggregations -/

/-- What a plain aggregation and one under another name have in common. -/
structure Aggregation.IsSound (aggregation : Aggregation) : Prop where
  complete : aggregation.IsComplete
  plain : Alias.IsPlain aggregation.resultName

/-- The word for a kind of aggregation is a name to fall back on. -/
theorem word_falls (kind : AggregationKind) :
    Alias.IsPlain (String.ofList (Alias.collapse false kind.word.toList)) := by
  cases kind <;> decide

theorem plain_of (kind : AggregationKind) (field : Option FieldRef) :
    Alias.IsPlain (Aggregation.of kind field).resultName := by
  have plain := Alias.sanitize_plain kind.word (word_falls kind)
  simpa only [Aggregation.of] using plain

theorem named_sound {aggregation : Aggregation} (sound : aggregation.IsSound) (name : String) :
    (aggregation.named name).IsSound := by
  have complete := sound.complete
  have plain := Alias.sanitize_plain name (word_falls aggregation.kind)
  constructor
  · simpa only [Aggregation.named, Aggregation.IsComplete] using complete
  · simpa only [Aggregation.named] using plain

theorem percentile_isOperand {value : Json} {percentile : Percentile}
    (made : Percentile.ofJson value = .ok percentile) : percentile.IsOperand := by
  unfold Percentile.ofJson at made
  split at made
  · next n =>
    obtain ⟨literal, read, rfl⟩ := Outcome.ok_of_map made
    exact literal_of_number (number_value read)
  · obtain ⟨field, -, rfl⟩ := Outcome.ok_of_map made
    trivial

/-- An aggregation that is read has what its kind needs, and a plain name. -/
theorem plain_aggregation_sound {head : String} {args : List Json} {aggregation : Aggregation}
    (made : Aggregation.plainOfJson head args = .ok aggregation) : aggregation.IsSound := by
  unfold Aggregation.plainOfJson at made
  split at made
  · cases made
  · split at made
    · cases made
      exact ⟨rfl, plain_of .count none⟩
    · obtain ⟨percentile, operand, made⟩ := Outcome.ok_of_bind made
      obtain ⟨field, -, made⟩ := Outcome.ok_of_bind made
      cases made
      exact ⟨⟨rfl, percentile, rfl, percentile_isOperand operand⟩, plain_of .percentile (some field)⟩
    · cases made
    · next kind _ _ _ _ other =>
      obtain ⟨field, -, rfl⟩ := Outcome.ok_of_map made
      refine ⟨?_, plain_of kind (some field)⟩
      cases kind with
      | percentile => exact absurd rfl other
      | count => rfl
      | _ => exact ⟨rfl, rfl⟩
    · cases made

/-- Names around an aggregation are made plain and change nothing else. -/
theorem aggregation_sound {value : Json} {aggregation : Aggregation}
    (made : Aggregation.ofJson value = .ok aggregation) : aggregation.IsSound := by
  fun_induction Aggregation.ofJson value generalizing aggregation with
  | case1 inner options others read name _ given ih =>
    cases made
    exact named_sound (ih given) name
  | case2 inner options others unnamed ih => exact ih made
  | case3 => exact plain_aggregation_sound made
  | case4 inner name others _ ih =>
    obtain ⟨unnamed, read, rfl⟩ := Outcome.ok_of_map made
    exact named_sound (ih read) name
  | case5 => exact plain_aggregation_sound made
  | case6 => exact plain_aggregation_sound made
  | case7 => cases made

theorem withDistinctAliases_sound {aggregations : List Aggregation}
    (sound : ∀ aggregation ∈ aggregations, aggregation.IsSound) :
    ∀ aggregation ∈ Aggregation.withDistinctAliases aggregations, aggregation.IsSound := by
  have plain : ∀ name ∈ Alias.distinct (aggregations.map (·.resultName)), Alias.IsPlain name := by
    refine Alias.distinct_plain fun name member => ?_
    obtain ⟨aggregation, held, rfl⟩ := List.mem_map.mp member
    exact (sound aggregation held).plain
  rw [Aggregation.withDistinctAliases]
  generalize Alias.distinct (aggregations.map (·.resultName)) = names at plain ⊢
  rw [← List.map_uncurry_zip_eq_zipWith]
  intro renamed member
  obtain ⟨⟨aggregation, name⟩, paired, rfl⟩ := List.mem_map.mp member
  obtain ⟨held, given⟩ := List.of_mem_zip paired
  exact ⟨(sound aggregation held).complete, plain name given⟩

/-- Aggregations that are read have distinct names. -/
theorem aggregations_sound {value : Json} {aggregations : List Aggregation}
    (made : aggregationsOfJson value = .ok aggregations) :
    (∀ aggregation ∈ aggregations, aggregation.IsSound) ∧
      (aggregations.map (·.resultName)).Nodup := by
  have renamed {listed : List Aggregation} (sound : ∀ aggregation ∈ listed, aggregation.IsSound)
      (same : Aggregation.withDistinctAliases listed = aggregations) :
      (∀ aggregation ∈ aggregations, aggregation.IsSound) ∧
        (aggregations.map (·.resultName)).Nodup := by
    subst same
    exact ⟨withDistinctAliases_sound sound, Aggregation.withDistinctAliases_names listed ▸ Alias.nodup_distinct _⟩
  unfold aggregationsOfJson at made
  split at made
  · cases made
    simp
  · obtain ⟨one, read, same⟩ := Outcome.ok_of_map made
    exact renamed (List.forall_mem_singleton.mpr (aggregation_sound read)) same
  · obtain ⟨listed, read, same⟩ := Outcome.ok_of_map made
    exact renamed (Outcome.each_of_mapM read aggregation_sound) same
  · cases made

/-! ## Queries -/

theorem sortTarget_isWithin {aggregations : Nat} {value : Json} {target : SortTarget}
    (made : SortTarget.ofJson aggregations value = .ok target) : target.IsWithin aggregations := by
  unfold SortTarget.ofJson at made
  split at made
  · split at made
    · next index _ =>
      split at made
      · next within =>
        cases made
        exact ⟨within, index.toNat_lt⟩
      · cases made
    · cases made
  · obtain ⟨field, -, rfl⟩ := Outcome.ok_of_map made
    trivial

theorem sortOrder_isWithin {aggregations : Nat} {value : Json} {order : SortOrder}
    (made : SortOrder.ofJson aggregations value = .ok order) :
    order.target.IsWithin aggregations := by
  unfold SortOrder.ofJson at made
  split at made
  · obtain ⟨direction, -, made⟩ := Outcome.ok_of_bind made
    split at made
    · obtain ⟨target, read, made⟩ := Outcome.ok_of_bind made
      cases made
      exact sortTarget_isWithin read
    · cases made
  · cases made

/-- Sort orders that are read point at aggregations that there are. -/
theorem sortOrders_areWithin {aggregations : Nat} {value : Json} {orders : List SortOrder}
    (made : sortOrdersOfJson aggregations value = .ok orders) :
    ∀ order ∈ orders, order.target.IsWithin aggregations := by
  unfold sortOrdersOfJson at made
  split at made
  · exact Outcome.each_of_mapM made sortOrder_isWithin
  · cases made

/-- Pages are counted from one. -/
theorem pageNumber_positive {value : Option Json} {page : UInt64}
    (made : pageNumberOfJson value = .ok page) : 1 ≤ page := by
  unfold pageNumberOfJson at made
  split at made
  · split at made
    · next positive =>
      cases made
      exact positive
    · cases made
  · cases made

theorem page_positive {value : Option Json} {limit : Option UInt64}
    {read : Option UInt64 × Option UInt64} (made : pageOfJson value limit = .ok read) :
    ∀ page ∈ read.2, 1 ≤ page := by
  unfold pageOfJson at made
  split at made
  · cases made
    simp
  · cases made
    simp
  · obtain ⟨number, positive, made⟩ := Outcome.ok_of_bind made
    obtain ⟨items, -, made⟩ := Outcome.ok_of_bind made
    cases made
    rintro page ⟨⟩
    exact pageNumber_positive positive
  · obtain ⟨number, positive, rfl⟩ := Outcome.ok_of_map made
    rintro page ⟨⟩
    exact pageNumber_positive positive

/-- What holds of a clause that is absent and of every one that is read holds of a clause. -/
theorem clause_ensures {α : Type} (p : α → Prop) {value : Option Json} {absent clause : α}
    {read : Json → Except CompileError α}
    (made : clauseOfJson value absent read = .ok clause) (without : p absent)
    (ensured : ∀ {value}, read value = .ok clause → p clause) : p clause := by
  rcases clause_read made with ⟨-, rfl⟩ | ⟨given, -, read⟩
  · exact without
  · exact ensured read

/-- A query that is read clause by clause is well formed. -/
theorem isWellFormed_of_read {body : List (String × Json)} {query : Query}
    (read : query.IsReadFrom body) : query.IsWellFormed := by
  obtain ⟨sound, distinct⟩ := clause_ensures (fun listed : List Aggregation =>
    (∀ aggregation ∈ listed, aggregation.IsSound) ∧ (listed.map (·.resultName)).Nodup)
    read.aggregations (by simp) aggregations_sound
  obtain ⟨limit, -, readPage⟩ := read.page
  refine ⟨page_positive readPage, ?_, ?_, ?_, distinct, ?_⟩
  · intro filter member
    obtain ⟨value, -, made⟩ := read.filter filter member
    exact filter_isWellFormed value made
  · exact fun aggregation member => (sound aggregation member).complete
  · exact fun aggregation member => (sound aggregation member).plain
  · exact clause_ensures (fun orders => ∀ order ∈ orders, SortTarget.IsWithin _ order.target)
      read.orderBy (by simp) sortOrders_areWithin

/-- A query that was read is well-formed. -/
theorem query_isWellFormed {value : Json} {query : Query} (made : Query.ofJson value = .ok query) :
    query.IsWellFormed := by
  obtain ⟨outer, body, -, -, -, -, read⟩ := query_read made
  exact isWellFormed_of_read read

end ColumnQuery
