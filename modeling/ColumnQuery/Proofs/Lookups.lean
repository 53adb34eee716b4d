import ColumnQuery.Metadata.Catalog
import ColumnQuery.Proofs.FieldNames
import Mathlib.Data.List.Induction
import Mathlib.Data.List.Nodup

/-! The lookups that columns need: one for each id, where the id first occurs. They are stated as a list
that is fixed before anything is asked, and a store may stop the asking at any of them. -/
namespace ColumnQuery

/-- The id that a column is looked up by, if it has no name of its own. -/
def FieldRef.id? : FieldRef → Option Int64
  | .byId id => some id
  | .byName _ => none

/-- The ids of columns in the order of their first occurrences, each once. -/
def FieldRef.distinctIds (fields : List FieldRef) : List Int64 :=
  (fields.filterMap FieldRef.id?).eraseDups

/-- The lookups that columns need. -/
def FieldRef.lookups (fields : List FieldRef) : List Lookup :=
  (distinctIds fields).map .field

/-- One more value is new among the first occurrences, or it is there already. -/
theorem eraseDups_concat {α : Type} [DecidableEq α] (values : List α) (last : α) :
    (values ++ [last]).eraseDups =
      if last ∈ values then values.eraseDups else values.eraseDups ++ [last] := by
  rw [List.eraseDups_append]
  by_cases present : last ∈ values
  · simp [List.removeAll, present]
  · simp [List.removeAll, List.eraseDups_cons, present]

theorem nodup_eraseDups {α : Type} [DecidableEq α] (values : List α) : values.eraseDups.Nodup := by
  induction values using List.reverseRecOn with
  | nil => simp
  | append_singleton values last ih =>
    rw [eraseDups_concat]
    by_cases present : last ∈ values
    · rwa [if_pos present]
    · rw [if_neg present]
      have new : last ∉ values.eraseDups := fun member => present (List.mem_eraseDups.mp member)
      exact List.nodup_append.mpr ⟨ih, List.nodup_singleton last, by
        intro value member other same
        rw [List.mem_singleton.mp same]
        exact fun equal => new (equal ▸ member)⟩

/-- No column is looked up twice. -/
theorem FieldRef.nodup_lookups (fields : List FieldRef) : (lookups fields).Nodup :=
  (nodup_eraseDups _).map fun _ _ same => Lookup.field.inj same

theorem FieldRef.mem_ids {fields : List FieldRef} {id : Int64} :
    id ∈ fields.filterMap FieldRef.id? ↔ .byId id ∈ fields := by
  rw [List.mem_filterMap]
  constructor
  · rintro ⟨field, member, has⟩
    cases field with
    | byName name => cases has
    | byId other =>
      cases has
      exact member
  · intro member
    exact ⟨.byId id, member, rfl⟩

/-- Exactly the columns that are given by id are looked up. -/
theorem FieldRef.mem_lookups {fields : List FieldRef} {id : Int64} :
    .field id ∈ lookups fields ↔ .byId id ∈ fields := by
  rw [← mem_ids, ← List.mem_eraseDups, lookups, distinctIds]
  simp

theorem FieldRef.append_no_lookups (earlier : List Lookup) : earlier ++ lookups [] = earlier :=
  List.append_nil earlier

theorem FieldRef.lookups_concat_name (fields : List FieldRef) (name : String) :
    lookups (fields ++ [.byName name]) = lookups fields := by
  simp [lookups, distinctIds, id?, List.filterMap_cons]

theorem FieldRef.lookups_concat_id (fields : List FieldRef) (id : Int64) :
    lookups (fields ++ [.byId id]) =
      if .byId id ∈ fields then lookups fields else lookups fields ++ [.field id] := by
  have appended : (fields ++ [byId id]).filterMap FieldRef.id? =
      fields.filterMap FieldRef.id? ++ [id] := by
    simp [id?]
  rw [lookups, distinctIds, appended, eraseDups_concat]
  simp only [mem_ids]
  by_cases known : byId id ∈ fields
  · rw [if_pos known, if_pos known, lookups, distinctIds]
  · rw [if_neg known, if_neg known, List.map_append, lookups, distinctIds, List.map_singleton]

/-- Lookups are tried in their order until one fails. This relates the lookups made before to those
made at the end, and to the failure if there was one. Every answer may depend on what was looked up
before it. -/
inductive Metadata.Tries (metadata : Metadata) :
    List Lookup → List Lookup → List Lookup → Option LookupError → Prop
  | done (earlier : List Lookup) : Tries metadata earlier [] earlier none
  | answered {earlier rest later : List Lookup} {failure : Option LookupError} {lookup : Lookup}
      {name : String} (given : metadata earlier lookup = .ok name)
      (further : Tries metadata (earlier ++ [lookup]) rest later failure) :
      Tries metadata earlier (lookup :: rest) later failure
  | failed {earlier rest : List Lookup} {lookup : Lookup} {cause : LookupError}
      (refused : metadata earlier lookup = .error cause) :
      Tries metadata earlier (lookup :: rest) (earlier ++ [lookup]) (some cause)

/-- Two stores answer a list of lookups alike, when it is made after the same lookups. -/
def Metadata.AgreesOn (metadata other : Metadata) (earlier plan : List Lookup) : Prop :=
  ∀ before lookup after, plan = before ++ lookup :: after →
    metadata (earlier ++ before) lookup = other (earlier ++ before) lookup

namespace Asking

variable {metadata other : Metadata} {earlier plan : List Lookup}

theorem ask_answered {lookup : Lookup} {name : String}
    (given : metadata earlier lookup = .ok name) :
    ask lookup metadata earlier = ⟨.ok name, earlier ++ [lookup]⟩ := by
  rw [ask, given]

theorem ask_failed {lookup : Lookup} {cause : LookupError}
    (refused : metadata earlier lookup = .error cause) :
    ask lookup metadata earlier = ⟨.error cause, earlier ++ [lookup]⟩ := by
  rw [ask, refused]

/-- Asking for several names tries the lookups in their order, and fails with the failure of one. -/
theorem askEach_tries (metadata : Metadata) (earlier plan : List Lookup) :
    ∃ later failure, metadata.Tries earlier plan later failure ∧
      match failure with
      | none => ∃ found, plan.mapM ask metadata earlier = ⟨.ok found, later⟩
      | some cause => plan.mapM ask metadata earlier = ⟨.error cause, later⟩ := by
  induction plan generalizing earlier with
  | nil => exact ⟨earlier, none, .done earlier, [], rfl⟩
  | cons lookup rest ih =>
    rw [List.mapM_cons]
    cases answer : metadata earlier lookup with
    | error cause =>
      exact ⟨_, some cause, .failed answer, bind_of_error _ (ask_failed answer)⟩
    | ok name =>
      obtain ⟨later, failure, tries, ended⟩ := ih (earlier ++ [lookup])
      refine ⟨later, failure, .answered answer tries, ?_⟩
      rw [bind_of_ok _ (ask_answered answer)]
      cases failure with
      | some cause => exact bind_of_error _ ended
      | none =>
        obtain ⟨found, ended⟩ := ended
        exact ⟨name :: found, bind_of_ok _ ended⟩

/-- What is asked for is all that matters of a store. -/
theorem askEach_agree (agree : metadata.AgreesOn other earlier plan) :
    plan.mapM ask metadata earlier = plan.mapM ask other earlier := by
  induction plan generalizing earlier with
  | nil => rfl
  | cons lookup rest ih =>
    have first : metadata earlier lookup = other earlier lookup := by
      simpa using agree [] lookup rest rfl
    have others : metadata.AgreesOn other (earlier ++ [lookup]) rest := by
      intro before next after split
      simpa using agree (lookup :: before) next after (by rw [split, List.cons_append])
    rw [List.mapM_cons]
    refine bind_agrees (by rw [ask, ask, first]) ?_
    intro name later ended
    obtain rfl : earlier ++ [lookup] = later := congrArg Asked.lookups ended
    exact bind_agrees (ih others) fun _ _ _ => rfl

end Asking

namespace FieldNames

/-- The ids of columns that have no name yet. -/
def missing (names : FieldNames) (fields : List FieldRef) : List Int64 :=
  ((fields.filterMap FieldRef.id?).filter fun id => (names.find? id).isNone).eraseDups

variable {names : FieldNames} {id : Int64}

theorem missing_name (names : FieldNames) (name : String) (rest : List FieldRef) :
    names.missing (.byName name :: rest) = names.missing rest :=
  rfl

/-- An id with a name needs no lookup. -/
theorem missing_known {name : String} (held : names.find? id = some name) (rest : List FieldRef) :
    names.missing (.byId id :: rest) = names.missing rest := by
  simp [missing, FieldRef.id?, held]

/-- An id without a name needs one lookup, and none later on. -/
theorem missing_new (absent : names.find? id = none) (name : String) (rest : List FieldRef) :
    names.missing (.byId id :: rest) = id :: (names.add id name).missing rest := by
  have remaining (other : Int64) : ((names.add id name).find? other).isNone =
      ((names.find? other).isNone && !other == id) := by
    rw [find?_add]
    cases names.find? other <;> cases other == id <;> rfl
  simp only [missing, FieldRef.id?, List.filterMap_cons, List.filter_cons, absent, Option.isNone_none,
    ↓reduceIte, List.eraseDups_cons, List.filter_filter, remaining, Bool.and_comm]

/-- Making sure of several columns is asking for the ids that have no name, each once. -/
theorem ensureAll_eq (names : FieldNames) (fields : List FieldRef) : names.ensureAll fields = do
    let found ← ((names.missing fields).map Lookup.field).mapM Asking.ask
    return ⟨names.entries ++ (names.missing fields).zip found⟩ := by
  induction fields generalizing names with
  | nil => simp [ensureAll, missing]
  | cons field rest ih =>
    rw [ensureAll]
    cases field with
    | byName name => simpa [ensure, missing_name] using ih names
    | byId id =>
      cases held : names.find? id with
      | some name => simpa [ensure, held, missing_known held] using ih names
      | none =>
        simp only [ensure, held, bind_assoc, pure_bind, ih, missing_new held "", List.map_cons,
          List.mapM_cons, List.zip_cons_cons]
        refine congrArg _ (funext fun name => ?_)
        have same : (names.add id "").missing rest = (names.add id name).missing rest :=
          List.tail_eq_of_cons_eq ((missing_new held "" rest).symm.trans (missing_new held name rest))
        have extended : (names.add id name).entries = names.entries ++ [(id, name)] := rfl
        simp only [same, extended, List.append_assoc, List.singleton_append]

theorem missing_empty (fields : List FieldRef) :
    missing {} fields = FieldRef.distinctIds fields := by
  simp [missing, FieldRef.distinctIds, find?]

/-- Resolving columns is asking for each of their ids once. -/
theorem resolve_eq (fields : List FieldRef) : resolve fields = do
    let found ← (FieldRef.lookups fields).mapM Asking.ask
    return ⟨(FieldRef.distinctIds fields).zip found⟩ := by
  rw [resolve, ensureAll_eq, missing_empty]
  rfl

end FieldNames

/-! ## Names found in an order -/

/-- The name that the store gives to a column where its id first occurs in an order, with each id of
the order looked up once. -/
def Metadata.nameIn (metadata : Metadata) (earlier : List Lookup) (order : List FieldRef) :
    FieldRef → Except LookupError String
  | .byName name => .ok name
  | .byId id =>
    metadata (earlier ++ FieldRef.lookups (order.takeWhile fun field => field != .byId id)) (.field id)

section Order

variable {metadata : Metadata} {earlier : List Lookup} {done rest : List FieldRef}

/-- The name of a column is the answer at its first place, after the lookups before it. -/
theorem Metadata.nameIn_first {id : Int64} (new : .byId id ∉ done) :
    metadata.nameIn earlier (done ++ .byId id :: rest) (.byId id) =
      metadata (earlier ++ FieldRef.lookups done) (.field id) := by
  have others : ∀ field ∈ done, (field != .byId id) = true := by
    intro field member
    simpa using fun same : field = .byId id => new (same ▸ member)
  rw [nameIn, List.takeWhile_append_of_pos others, List.takeWhile_cons_of_neg (by simp),
    List.append_nil]

theorem Metadata.nameIn_single (metadata : Metadata) (earlier : List Lookup) (id : Int64) :
    metadata.nameIn earlier [.byId id] (.byId id) = metadata earlier (.field id) := by
  have alone : [FieldRef.byId id] = [] ++ .byId id :: [] := rfl
  rw [alone, nameIn_first List.not_mem_nil, FieldRef.append_no_lookups]

/-- Over a store whose answers do not change, the order does not matter. -/
theorem Metadata.nameIn_steady (steady : metadata.IsSteady) (earlier : List Lookup)
    (order : List FieldRef) : metadata.nameIn earlier order = metadata.column := by
  funext field
  cases field with
  | byName name => rfl
  | byId id => exact steady ..

/-- The names found are those of the columns that were gone through, and of no other. -/
structure FieldNames.Covers (names : FieldNames) (column : FieldRef → Except LookupError String)
    (done : List FieldRef) : Prop where
  found : ∀ id, .byId id ∈ done → ∃ name, names.find? id = some name ∧ column (.byId id) = .ok name
  absent : ∀ id, .byId id ∉ done → names.find? id = none

namespace FieldNames

variable {names : FieldNames} {column : FieldRef → Except LookupError String}

theorem covers_empty (column : FieldRef → Except LookupError String) : Covers {} column [] :=
  ⟨by simp, fun _ _ => rfl⟩

/-- Names that cover some columns cover one of them again. -/
theorem Covers.known (covers : names.Covers column done) {field : FieldRef}
    (old : ∀ id, field = .byId id → field ∈ done) : names.Covers column (done ++ [field]) := by
  have same (id : Int64) : .byId id ∈ done ++ [field] ↔ .byId id ∈ done := by
    rw [List.mem_append, List.mem_singleton]
    exact ⟨fun member => member.elim (fun known => known) fun equal => equal ▸ old id equal.symm, .inl⟩
  exact ⟨fun id member => covers.found id ((same id).mp member),
    fun id other => covers.absent id fun member => other ((same id).mpr member)⟩

/-- Names that cover some columns cover one more when its name is added. -/
theorem Covers.add (covers : names.Covers column done) {id : Int64} {name : String}
    (new : .byId id ∉ done) (given : column (.byId id) = .ok name) :
    (names.add id name).Covers column (done ++ [.byId id]) := by
  refine ⟨fun other member => ?_, fun other unseen => ?_⟩
  · rcases List.mem_append.mp member with known | last
    · obtain ⟨kept, held, same⟩ := covers.found other known
      exact ⟨kept, kept_add names id name other kept held, same⟩
    · cases List.mem_singleton.mp last
      exact ⟨name, by simp [find?_add, covers.absent id new], given⟩
  · have different : other ≠ id := by
      rintro rfl
      exact unseen (List.mem_append_right done (List.mem_singleton_self _))
    rw [find?_add, covers.absent other fun known => unseen (List.mem_append_left _ known)]
    simp [different]

/-- The next column of an order has the name that the store gives it there, and is looked up unless
it was looked up before. -/
theorem ensure_next {field : FieldRef} (covers : names.Covers column done)
    (ordered : column = metadata.nameIn earlier (done ++ field :: rest)) :
    ∃ more, names.ensure field metadata (earlier ++ FieldRef.lookups done) =
        ⟨(column field).map fun _ => more, earlier ++ FieldRef.lookups (done ++ [field])⟩ ∧
      ∀ name, column field = .ok name →
        more.Covers column (done ++ [field]) ∧ more.nameOf field = .ok name := by
  cases field with
  | byName name =>
    have own : column (.byName name) = .ok name := by rw [ordered, Metadata.nameIn]
    rw [own, FieldRef.lookups_concat_name]
    refine ⟨names, rfl, ?_⟩
    rintro other ⟨⟩
    exact ⟨covers.known (by simp), rfl⟩
  | byId id =>
    rw [FieldRef.lookups_concat_id]
    by_cases known : .byId id ∈ done
    · obtain ⟨name, held, given⟩ := covers.found id known
      rw [given, if_pos known]
      refine ⟨names, ensure_known held, ?_⟩
      rintro other ⟨⟩
      exact ⟨covers.known fun _ _ => known, by simp [nameOf, held]⟩
    · have answer : metadata (earlier ++ FieldRef.lookups done) (.field id) = column (.byId id) := by
        rw [ordered, Metadata.nameIn_first known]
      have new := covers.absent id known
      rw [if_neg known, ensure_new new, answer, List.append_assoc]
      cases given : column (.byId id) with
      | error cause => exact ⟨names, rfl, by simp⟩
      | ok name =>
        refine ⟨names.add id name, rfl, ?_⟩
        rintro other ⟨⟩
        exact ⟨covers.add known given, nameOf_add new⟩

/-- A single column is looked up for its name, and known under it if there is one. -/
theorem resolve_single (metadata : Metadata) (earlier : List Lookup) (field : FieldRef) :
    ∃ names later, resolve [field] metadata earlier =
        ⟨(metadata.nameIn earlier [field] field).map fun _ => names, later⟩ ∧
      ∀ name, metadata.nameIn earlier [field] field = .ok name → names.nameOf field = .ok name := by
  have covers := covers_empty (metadata.nameIn earlier [field])
  obtain ⟨names, ended, known⟩ := ensure_next covers rfl
  rw [FieldRef.append_no_lookups] at ended
  refine ⟨names, earlier ++ FieldRef.lookups [field], ?_, fun name found => (known name found).2⟩
  have last : resolve [field] = ensure {} field := bind_pure _
  rw [last, ended, List.nil_append]

/-- Several columns in an order have the names that the store gives them there, or else the store fails
for one of them. -/
theorem ensureAll_next {fields : List FieldRef} (covers : names.Covers column done)
    (ordered : column = metadata.nameIn earlier (done ++ fields)) :
    (∃ more, names.ensureAll fields metadata (earlier ++ FieldRef.lookups done) =
        ⟨.ok more, earlier ++ FieldRef.lookups (done ++ fields)⟩ ∧
      more.Covers column (done ++ fields)) ∨
    ∃ field ∈ fields, ∃ cause, column field = .error cause ∧
      (names.ensureAll fields metadata (earlier ++ FieldRef.lookups done)).result = .error cause := by
  induction fields generalizing names done with
  | nil => exact .inl ⟨names, by rw [List.append_nil]; rfl, by rwa [List.append_nil]⟩
  | cons field rest ih =>
    obtain ⟨more, ended, known⟩ := ensure_next covers ordered
    rw [ensureAll]
    cases found : column field with
    | error cause =>
      rw [found] at ended
      refine .inr ⟨field, .head rest, cause, found, ?_⟩
      exact congrArg Asked.result (Asking.bind_of_error _ ended)
    | ok name =>
      rw [found] at ended
      have shape : done ++ field :: rest = done ++ [field] ++ rest := by simp
      rw [shape] at ordered ⊢
      rw [Asking.bind_of_ok _ ended]
      rcases ih (known name found).1 ordered with all | ⟨other, member, cause, failed, last⟩
      · exact .inl all
      · exact .inr ⟨other, .tail field member, cause, failed, last⟩

/-- Columns that are resolved have the names that the store gives them, or else the store fails for one
of them. -/
theorem resolve_next (metadata : Metadata) (earlier : List Lookup) (fields : List FieldRef) :
    (∃ names, resolve fields metadata earlier = ⟨.ok names, earlier ++ FieldRef.lookups fields⟩ ∧
      names.Covers (metadata.nameIn earlier fields) fields) ∨
    ∃ field ∈ fields, ∃ cause, metadata.nameIn earlier fields field = .error cause ∧
      (resolve fields metadata earlier).result = .error cause := by
  have covers := covers_empty (metadata.nameIn earlier fields)
  have ended := ensureAll_next covers (rfl : _ = metadata.nameIn earlier ([] ++ fields))
  rwa [FieldRef.append_no_lookups] at ended

end FieldNames

/-! ## Names given by a store -/

/-- The name that a column goes by, when these are the names of the ids. -/
def FieldRef.under (name : Int64 → String) : FieldRef → String
  | .byId id => name id
  | .byName own => own

/-- The store answers for each id of an order where it first occurs, and gives it this name. -/
def Metadata.Gives (metadata : Metadata) (earlier : List Lookup) (order : List FieldRef)
    (name : Int64 → String) : Prop :=
  ∀ id, .byId id ∈ order → metadata.nameIn earlier order (.byId id) = .ok (name id)

theorem Metadata.Gives.nameIn {order : List FieldRef} {name : Int64 → String}
    (gives : metadata.Gives earlier order name) {field : FieldRef} (member : field ∈ order) :
    metadata.nameIn earlier order field = .ok (field.under name) := by
  cases field with
  | byId id => exact gives id member
  | byName own => rfl

/-- Over a store whose answers do not change, the names given are simply its answers. -/
theorem Metadata.gives_steady (steady : metadata.IsSteady) {order : List FieldRef}
    {name : Int64 → String} : metadata.Gives earlier order name ↔
      ∀ id, .byId id ∈ order → metadata [] (.field id) = .ok (name id) := by
  rw [Gives, Metadata.nameIn_steady steady]
  rfl

/-- The name of a column in a catalog, where it has one. -/
def Catalog.columnName (catalog : Catalog) (id : Int64) : String :=
  (catalog.fields.lookup id).getD ""

/-- A catalog gives its names. That it has them is a Boolean here, so that deciding it goes through the
ids at hand and not through all words. -/
theorem Catalog.gives {catalog : Catalog} {order : List FieldRef}
    (known : (FieldRef.distinctIds order).all (fun id => (catalog.fields.lookup id).isSome) = true)
    (earlier : List Lookup) : catalog.metadata.Gives earlier order catalog.columnName := by
  refine (Metadata.gives_steady catalog.metadata_isSteady).mpr fun id member => ?_
  have listed : id ∈ FieldRef.distinctIds order :=
    List.mem_eraseDups.mpr (FieldRef.mem_ids.mpr member)
  obtain ⟨name, found⟩ := Option.isSome_iff_exists.mp (List.all_eq_true.mp known id listed)
  simp only [metadata, answer, columnName, found, Option.getD_some]

namespace FieldNames

variable {names : FieldNames} {fields : List FieldRef} {name : Int64 → String}

/-- The columns are known under these names. -/
def Knows (names : FieldNames) (fields : List FieldRef) (name : Int64 → String) : Prop :=
  ∀ field ∈ fields, names.nameOf field = .ok (field.under name)

theorem knows_append {first second : List FieldRef} :
    names.Knows (first ++ second) name ↔ names.Knows first name ∧ names.Knows second name :=
  List.forall_mem_append

theorem knows_flatMap {α : Type} {items : List α} {columns : α → List FieldRef} :
    names.Knows (items.flatMap columns) name ↔ ∀ item ∈ items, names.Knows (columns item) name :=
  List.forall_mem_flatMap

/-- Names that cover the columns know what was answered for them. -/
theorem Covers.knows {column : FieldRef → Except LookupError String}
    (covers : names.Covers column fields)
    (given : ∀ id, .byId id ∈ fields → column (.byId id) = .ok (name id)) :
    names.Knows fields name := by
  intro field member
  cases field with
  | byName own => rfl
  | byId id =>
    obtain ⟨found, held, same⟩ := covers.found id member
    rw [given id member] at same
    cases same
    simp only [nameOf, held, FieldRef.under]

/-- Columns that the store answers for are known under the names that it gives. -/
theorem resolve_given (gives : metadata.Gives earlier fields name) :
    ∃ names, resolve fields metadata earlier = ⟨.ok names, earlier ++ FieldRef.lookups fields⟩ ∧
      names.Knows fields name := by
  rcases resolve_next metadata earlier fields with ⟨names, ended, covers⟩ | failed
  · exact ⟨names, ended, covers.knows gives⟩
  · obtain ⟨field, member, cause, failed, -⟩ := failed
    rw [gives.nameIn member] at failed
    cases failed

/-- Columns are known only under the names that the store gives. -/
theorem gives_of_resolve {later : List Lookup}
    (ended : resolve fields metadata earlier = ⟨.ok names, later⟩) :
    ∃ name, metadata.Gives earlier fields name ∧ names.Knows fields name := by
  rcases resolve_next metadata earlier fields with ⟨more, found, covers⟩ | failed
  · rw [ended] at found
    cases found
    have gives : metadata.Gives earlier fields fun id => (names.find? id).getD "" := by
      intro id member
      obtain ⟨name, held, given⟩ := covers.found id member
      simp only [given, held, Option.getD_some]
    exact ⟨_, gives, covers.knows gives⟩
  · obtain ⟨-, -, cause, -, failed⟩ := failed
    rw [ended] at failed
    cases failed

end FieldNames

end Order

end ColumnQuery
