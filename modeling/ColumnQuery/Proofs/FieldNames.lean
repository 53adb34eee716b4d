import ColumnQuery.Field
import ColumnQuery.Proofs.Asking
import ColumnQuery.Proofs.Outcome

/-! The names of columns that were found so far. A name once found stays as it is, whatever the store
answers later. -/
namespace ColumnQuery

/-- The name of a column straight from the store, as if nothing had been asked before. -/
def Metadata.column (metadata : Metadata) : FieldRef → Except LookupError String
  | .byId id => metadata [] (.field id)
  | .byName name => .ok name

namespace FieldNames

variable {names more : FieldNames} {field : FieldRef} {metadata : Metadata}
  {lookups later : List Lookup}

theorem find?_add (id other : Int64) (name : String) :
    (names.add id name).find? other =
      (names.find? other).or (if other == id then some name else none) := by
  rw [find?, add, List.lookup_append, ← find?, List.lookup_cons, List.lookup_nil]
  cases other == id <;> rfl

/-- Every name that was found is still the same. -/
def IsKept (names more : FieldNames) : Prop :=
  ∀ id name, names.find? id = some name → more.find? id = some name

theorem IsKept.refl (names : FieldNames) : names.IsKept names :=
  fun _ _ found => found

theorem IsKept.trans {last : FieldNames} (first : names.IsKept more) (second : more.IsKept last) :
    names.IsKept last :=
  fun id name found => second id name (first id name found)

/-- A name that was found is found again when names are added. -/
theorem IsKept.nameOf {name : String} (kept : names.IsKept more)
    (found : names.nameOf field = .ok name) : more.nameOf field = .ok name := by
  cases field with
  | byName other => exact found
  | byId id =>
    simp only [FieldNames.nameOf] at found ⊢
    cases held : names.find? id with
    | none => simp [held] at found
    | some other =>
      simp only [held, kept id other held] at found ⊢
      exact found

/-- Adding a name keeps all others. -/
theorem kept_add (names : FieldNames) (id : Int64) (name : String) :
    names.IsKept (names.add id name) := by
  intro other held found
  rw [find?_add, found, Option.some_or]

theorem nameOf_add {id : Int64} {name : String} (absent : names.find? id = none) :
    (names.add id name).nameOf (.byId id) = .ok name := by
  simp [nameOf, find?_add, absent]

/-! ## Making sure of a column -/

/-- Nothing is asked for an id that has a name. -/
theorem ensure_known {id : Int64} {name : String} (held : names.find? id = some name) :
    names.ensure (.byId id) metadata lookups = ⟨.ok names, lookups⟩ := by
  simp only [ensure, held]
  rfl

/-- An id without a name is looked up, and gets the name that is answered. -/
theorem ensure_new {id : Int64} (absent : names.find? id = none) :
    names.ensure (.byId id) metadata lookups =
      ⟨(metadata lookups (.field id)).map (names.add id), lookups ++ [.field id]⟩ := by
  simp only [ensure, absent]
  change Asking.andThen (Asking.ask (.field id)) _ metadata lookups = _
  rw [Asking.andThen, Asking.ask]
  cases metadata lookups (.field id) <;> rfl

/-- Making sure of a column keeps the names there are and gives the column one. -/
theorem ensure_ok (ended : names.ensure field metadata lookups = ⟨.ok more, later⟩) :
    names.IsKept more ∧ ∃ name, more.nameOf field = .ok name := by
  cases field with
  | byName name =>
    cases ended
    exact ⟨.refl names, name, rfl⟩
  | byId id =>
    cases held : names.find? id with
    | some name =>
      rw [ensure_known held] at ended
      cases ended
      exact ⟨.refl names, name, by simp [nameOf, held]⟩
    | none =>
      rw [ensure_new held] at ended
      obtain ⟨name, given, rfl⟩ := Outcome.ok_of_map (congrArg Asked.result ended)
      exact ⟨kept_add names id name, name, nameOf_add held⟩

/-- Making sure of several columns keeps the names there are and gives every column one. -/
theorem ensureAll_ok {fields : List FieldRef}
    (ended : names.ensureAll fields metadata lookups = ⟨.ok more, later⟩) :
    names.IsKept more ∧ ∀ field ∈ fields, ∃ name, more.nameOf field = .ok name := by
  induction fields generalizing names lookups with
  | nil =>
    cases ended
    exact ⟨.refl _, by simp⟩
  | cons field rest ih =>
    rw [ensureAll] at ended
    obtain ⟨between, found, first, goesOn⟩ := Asking.ok_of_bind ended
    obtain ⟨kept, name, named⟩ := ensure_ok first
    obtain ⟨keptOn, others⟩ := ih goesOn
    exact ⟨kept.trans keptOn, List.forall_mem_cons.mpr ⟨⟨name, keptOn.nameOf named⟩, others⟩⟩

end FieldNames

end ColumnQuery
