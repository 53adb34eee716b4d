import ColumnQuery.Proofs.Outcome
import ColumnQuery.Proofs.Template.Live

/-! Renderings. Each fragment has one of its own, which depends on its parameter and on the name of the
column that it filters, and on nothing that was written before. -/
namespace ColumnQuery
open Sql

namespace Param

variable (column : FieldRef → Except LookupError String)

/-- Whether a parameter renders on its own: there is something to inline, and a field filter has a
column with a name and a value that is not absent. -/
def CanRender : Option Param → Prop
  | none => False
  | some .noValue => False
  | some (.scalar _) => True
  | some (.list values) => values ≠ []
  | some (.fieldFilter filter) =>
    (∃ name, column filter.field = .ok name) ∧ ∃ value ∈ filter.values, value.isNull = false

/-- The rendering of a field filter on a column of a known name. -/
def filterText (name : String) (filter : FieldFilter) : Except SubstitutionError String :=
  match Predicate.onField name filter.operator filter.values filter.caseSensitive with
  | .ok phrase => .ok (Phrase.text phrase)
  | .error cause => .error (.ofRender cause)

/-- The rendering that a parameter of a given name has on its own, or the reason why it has none. -/
def render (name : String) : Option Param → Except SubstitutionError String
  | none => .error (.missingRequired name)
  | some .noValue => .error (.missingParameter name)
  | some (.scalar value) => .ok value.sql
  | some (.list values) =>
    match Predicate.values? values with
    | some phrase => .ok (Phrase.text phrase)
    | none => .error (.missingParameter name)
  | some (.fieldFilter filter) =>
    match column filter.field with
    | .ok found => filterText found filter
    | .error cause => .error (.unresolved cause)

variable {column}

/-- A field filter has a rendering exactly when there is a value to compare with. -/
theorem filterText_ok_iff {name : String} {filter : FieldFilter} :
    (∃ text, filterText name filter = .ok text) ↔ ∃ value ∈ filter.values, value.isNull = false := by
  unfold filterText Predicate.onField
  by_cases absent : filter.values.all Literal.isNull
  · have none : ∀ value ∈ filter.values, value.isNull = true := by simpa using absent
    simp only [absent, ↓reduceIte]
    constructor
    · rintro ⟨text, ⟨⟩⟩
    · rintro ⟨value, member, present⟩
      rw [none value member] at present
      cases present
  · have some : ∃ value ∈ filter.values, value.isNull = false := by simpa using absent
    simp only [absent, Bool.false_eq_true, ↓reduceIte]
    refine ⟨fun _ => some, fun _ => ?_⟩
    cases filter.operator.isPattern <;> exact ⟨_, rfl⟩

/-- What can be rendered is rendered, and nothing else is. -/
theorem render_ok_iff {name : String} {param : Option Param} :
    (∃ text, render column name param = .ok text) ↔ CanRender column param := by
  match param with
  | none => simp [render, CanRender]
  | some .noValue => simp [render, CanRender]
  | some (.scalar value) => simp [render, CanRender]
  | some (.list values) =>
    match values with
    | [] => simp [render, CanRender, Predicate.values?]
    | [value] => simp [render, CanRender, Predicate.values?]
    | first :: second :: others => simp [render, CanRender, Predicate.values?]
  | some (.fieldFilter filter) =>
    cases named : column filter.field with
    | error cause => simp [render, CanRender, named]
    | ok found => simp [render, CanRender, named, filterText_ok_iff]

end Param

namespace Fragment

variable (column : FieldRef → Except LookupError String) (params : Params)

/-- Whether a fragment renders on its own. -/
def CanRender : Fragment → Prop
  | .text _ => True
  | .reference name => Param.CanRender column (params.find? name)

/-- The rendering of a fragment on its own. -/
def render : Fragment → Except SubstitutionError String
  | .text content => .ok content
  | .reference name => Param.render column name (params.find? name)

end Fragment

namespace Template

variable {params : Params} {column : FieldRef → Except LookupError String}
  {fragments : List Fragment}

/-- The renderings of fragments one after the other, or the reason why the first that has none has
none. -/
def renderAll (column : FieldRef → Except LookupError String) (params : Params)
    (fragments : List Fragment) : Except SubstitutionError String :=
  (fragments.mapM (Fragment.render column params)).map String.join

theorem renderAll_cons (column : FieldRef → Except LookupError String) (fragment : Fragment)
    (rest : List Fragment) : renderAll column params (fragment :: rest) = do
      let first ← fragment.render column params
      let others ← renderAll column params rest
      return first ++ others := by
  rw [renderAll, List.mapM_cons]
  cases fragment.render column params with
  | error cause => rfl
  | ok first =>
    rw [renderAll]
    cases rest.mapM (Fragment.render column params) with
    | error cause => rfl
    | ok others => exact congrArg Except.ok String.join_cons

theorem renderAll_single (column : FieldRef → Except LookupError String) (params : Params)
    (fragment : Fragment) : renderAll column params [fragment] = fragment.render column params := by
  rw [renderAll_cons]
  cases fragment.render column params with
  | error cause => rfl
  | ok text => exact congrArg Except.ok String.append_empty

theorem render_fragment_iff {fragment : Fragment} :
    (∃ text, fragment.render column params = .ok text) ↔ fragment.CanRender column params := by
  cases fragment with
  | text content => simp [Fragment.render, Fragment.CanRender]
  | reference name => exact Param.render_ok_iff

/-- Only a reference fails to render, and the first that fails decides the error. -/
theorem renderAll_error {error : SubstitutionError}
    (failed : renderAll column params fragments = .error error) :
    ∃ before name after, fragments = before ++ .reference name :: after ∧
      (∀ fragment ∈ before, fragment.CanRender column params) ∧
        (Fragment.reference name).render column params = .error error := by
  rw [renderAll] at failed
  cases rendered : fragments.mapM (Fragment.render column params) with
  | ok texts =>
    rw [rendered] at failed
    cases failed
  | error cause =>
    rw [rendered] at failed
    cases failed
    obtain ⟨before, fragment, after, rfl, passed, fails⟩ := Outcome.error_of_mapM rendered
    cases fragment with
    | text content => cases fails
    | reference name =>
      refine ⟨before, name, after, rfl, fun other member => ?_, fails⟩
      exact render_fragment_iff.mp (passed other member)

/-- Fragments are rendered exactly when each of them can be. -/
theorem renderAll_ok_iff : (∃ text, renderAll column params fragments = .ok text) ↔
    ∀ fragment ∈ fragments, fragment.CanRender column params := by
  induction fragments with
  | nil => exact ⟨by simp, fun _ => ⟨"", rfl⟩⟩
  | cons fragment rest ih =>
    rw [List.forall_mem_cons, ← render_fragment_iff, ← ih, renderAll_cons]
    constructor
    · rintro ⟨text, made⟩
      obtain ⟨first, rendered, made⟩ := Outcome.ok_of_bind made
      obtain ⟨others, following, -⟩ := Outcome.ok_of_bind made
      exact ⟨⟨first, rendered⟩, others, following⟩
    · rintro ⟨⟨first, rendered⟩, others, following⟩
      rw [rendered, following]
      exact ⟨first ++ others, rfl⟩

theorem filterText_error {name : String} {filter : FieldFilter} {error : SubstitutionError}
    (failed : Param.filterText name filter = .error error) : error = .missingFilterValue name := by
  unfold Param.filterText Predicate.onField at failed
  split at failed
  · cases failed
  · next cause absent =>
    split at absent
    · cases absent
      cases failed
      rfl
    · split at absent <;> cases absent

/-- A parameter that is reported as missing is the one referred to, and it lacks a value. -/
theorem reported_lacks {name reported : String} {error : SubstitutionError}
    (failed : (Fragment.reference name).render column params = .error error)
    (missing : error = .missingRequired reported ∨ error = .missingParameter reported) :
    reported = name ∧ params.lacks name = true := by
  rw [Fragment.render] at failed
  unfold Params.lacks
  cases given : params.find? name with
  | none =>
    rw [given] at failed
    cases failed
    simpa [eq_comm] using missing
  | some param =>
    rw [given] at failed
    cases param with
    | noValue =>
      cases failed
      simpa [eq_comm] using missing
    | scalar value => cases failed
    | list values =>
      cases values with
      | nil =>
        cases failed
        simpa [eq_comm] using missing
      | cons first others => cases others <;> cases failed
    | fieldFilter filter =>
      rw [Param.render] at failed
      split at failed
      · rw [filterText_error failed] at missing
        simp at missing
      · cases failed
        simp at missing

end Template

end ColumnQuery
