import ColumnQuery.Proofs.Lookups
import ColumnQuery.Proofs.Template.Rendering

/-! The lookups of one substitution. Only the columns of live field filters are looked up, each id once,
and none after the first live reference that does not render. The store may answer as it likes: a column
has the name that was given where its id was first met. -/
namespace ColumnQuery
open Sql

/-- The column that a parameter filters, if it filters one. -/
def Param.columns : Option Param → List FieldRef
  | some (.fieldFilter filter) => [filter.field]
  | _ => []

/-- The column that a fragment is written with, if it needs one. -/
def Fragment.columns (params : Params) : Fragment → List FieldRef
  | .text _ => []
  | .reference name => Param.columns (params.find? name)

namespace Template

/-- The columns of the field filters among fragments, as often as they are referred to. -/
def filterColumns (params : Params) (fragments : List Fragment) : List FieldRef :=
  fragments.flatMap (Fragment.columns params)

/-- The fragments that are come to when the first that does not render ends the writing. -/
inductive Reaches (renders : Fragment → Prop) : List Fragment → List Fragment → Prop
  | all {fragments : List Fragment} (each : ∀ fragment ∈ fragments, renders fragment) :
      Reaches renders fragments fragments
  | failing (before : List Fragment) (fragment : Fragment) (after : List Fragment)
      (each : ∀ fragment ∈ before, renders fragment) (fails : ¬ renders fragment) :
      Reaches renders (before ++ fragment :: after) (before ++ [fragment])

variable {renders : Fragment → Prop} {fragment : Fragment} {rest reached : List Fragment}

theorem reaches_cons (first : renders fragment) (further : Reaches renders rest reached) :
    Reaches renders (fragment :: rest) (fragment :: reached) := by
  cases further with
  | all each => exact .all (List.forall_mem_cons.mpr ⟨first, each⟩)
  | failing before other after each fails =>
    exact .failing (fragment :: before) other after (List.forall_mem_cons.mpr ⟨first, each⟩) fails

variable {params : Params} {names : FieldNames} {metadata : Metadata} {earlier : List Lookup}
  {column : FieldRef → Except LookupError String} {done following : List FieldRef}

theorem mem_filterColumns {fragments : List Fragment} {field : FieldRef} :
    field ∈ filterColumns params fragments ↔ ∃ name filter, .reference name ∈ fragments ∧
      params.find? name = some (.fieldFilter filter) ∧ filter.field = field := by
  rw [filterColumns, List.mem_flatMap]
  constructor
  · rintro ⟨fragment, member, has⟩
    cases fragment with
    | text content => cases has
    | reference name =>
      rw [Fragment.columns] at has
      unfold Param.columns at has
      split at has
      · next filter given => exact ⟨name, filter, member, given, (List.mem_singleton.mp has).symm⟩
      · cases has
  · rintro ⟨name, filter, member, given, rfl⟩
    refine ⟨.reference name, member, ?_⟩
    rw [Fragment.columns, given, Param.columns]
    exact List.mem_singleton_self _

/-- With the name that its column is meant to have, a parameter is written as its own rendering. -/
theorem writeReference_rendered {column : FieldRef → Except LookupError String} {more : FieldNames}
    {name : String} {param : Param} {lookups later : List Lookup}
    (given : params.find? name = some param)
    (ready : ensureColumn names param metadata lookups = ⟨.ok more, later⟩)
    (named : ∀ filter, param = .fieldFilter filter → ∃ found,
      column filter.field = .ok found ∧ more.nameOf filter.field = .ok found) :
    writeReference params names name metadata lookups =
      ⟨(Param.render column name (some param)).map fun text => (more, text), later⟩ := by
  rw [writeReference_ready given ready]
  refine congrArg (Asked.mk · later) ?_
  cases param with
  | noValue => rfl
  | scalar value =>
    have spelled : Phrase.text [.literal value] = value.sql := String.append_empty
    rw [Param.render, ← spelled]
    rfl
  | list values =>
    rw [Param.render, Param.phrase]
    cases Predicate.values? values <;> rfl
  | fieldFilter filter =>
    obtain ⟨found, meant, known⟩ := named filter rfl
    rw [Param.render, meant, Param.phrase, Param.filterPhrase, known]
    simp only [Param.filterText]
    cases Predicate.onField found filter.operator filter.values filter.caseSensitive <;> rfl

/-- A parameter that filters no column is written as its own rendering, and no name is needed. -/
theorem writeReference_plain (column : FieldRef → Except LookupError String) {name : String}
    {param : Param} {lookups : List Lookup} (given : params.find? name = some param)
    (bare : ∀ filter, param ≠ .fieldFilter filter) :
    writeReference params names name metadata lookups =
      ⟨(Param.render column name (some param)).map fun text => (names, text), lookups⟩ := by
  have ready : ensureColumn names param metadata lookups = ⟨.ok names, lookups⟩ := by
    cases param with
    | fieldFilter filter => exact absurd rfl (bare filter)
    | _ => rfl
  exact writeReference_rendered given ready fun filter same => absurd same (bare filter)

/-- A field filter is written with the name that its column has in the order, after a lookup unless the
column was looked up before. -/
theorem writeFilter_next {name : String} {filter : FieldFilter}
    (given : params.find? name = some (.fieldFilter filter)) (covers : names.Covers column done)
    (ordered : column = metadata.nameIn earlier (done ++ filter.field :: following)) :
    ∃ more, writeReference params names name metadata (earlier ++ FieldRef.lookups done) =
        ⟨(Param.render column name (some (.fieldFilter filter))).map fun text => (more, text),
          earlier ++ FieldRef.lookups (done ++ [filter.field])⟩ ∧
      (Param.CanRender column (some (.fieldFilter filter)) →
        more.Covers column (done ++ [filter.field])) := by
  obtain ⟨more, ended, known⟩ := FieldNames.ensure_next covers ordered
  refine ⟨more, ?_, ?_⟩
  · cases found : column filter.field with
    | error cause =>
      rw [found] at ended
      rw [writeReference_unresolved given ended, Param.render, found]
      rfl
    | ok held =>
      rw [found] at ended
      refine writeReference_rendered given ended ?_
      rintro other ⟨⟩
      exact ⟨held, found, (known held found).2⟩
  · rintro ⟨⟨held, found⟩, -⟩
    exact (known held found).1

/-- The next fragment is written as its own rendering, and its column is gone through. -/
theorem writeFragment_next (covers : names.Covers column done)
    (ordered : column = metadata.nameIn earlier (done ++ (fragment.columns params ++ following))) :
    ∃ more, writeFragment params names fragment metadata (earlier ++ FieldRef.lookups done) =
        ⟨(fragment.render column params).map fun text => (more, text),
          earlier ++ FieldRef.lookups (done ++ fragment.columns params)⟩ ∧
      (fragment.CanRender column params → more.Covers column (done ++ fragment.columns params)) := by
  cases fragment with
  | text content =>
    rw [Fragment.columns, List.append_nil]
    exact ⟨names, rfl, fun _ => covers⟩
  | reference name =>
    rw [writeFragment, Fragment.render, Fragment.CanRender]
    rw [Fragment.columns] at ordered ⊢
    cases given : params.find? name with
    | none =>
      have without : Param.columns none = [] := rfl
      refine ⟨names, ?_, False.elim⟩
      rw [writeReference, given, without, List.append_nil]
      rfl
    | some param =>
      by_cases filters : ∃ filter, param = .fieldFilter filter
      · obtain ⟨filter, rfl⟩ := filters
        rw [given] at ordered
        exact writeFilter_next given covers ordered
      · have without : Param.columns (some param) = [] := by
          cases param with
          | fieldFilter filter => exact absurd ⟨filter, rfl⟩ filters
          | _ => rfl
        rw [without, List.append_nil]
        exact ⟨names, writeReference_plain column given (not_exists.mp filters), fun _ => covers⟩

/-- Fragments are written as their own renderings, up to the first that has none. The lookups are those
of the columns come to, each id once. -/
theorem writeAll_reaches {fragments : List Fragment} (covers : names.Covers column done)
    (ordered : column = metadata.nameIn earlier (done ++ filterColumns params fragments)) :
    ∃ reached more, Reaches (Fragment.CanRender column params) fragments reached ∧
      writeAll params names fragments metadata (earlier ++ FieldRef.lookups done) =
        ⟨(renderAll column params fragments).map fun text => (more, text),
          earlier ++ FieldRef.lookups (done ++ filterColumns params reached)⟩ := by
  induction fragments generalizing names done with
  | nil =>
    refine ⟨[], names, .all (by simp), ?_⟩
    rw [filterColumns, List.flatMap_nil, List.append_nil]
    rfl
  | cons fragment rest ih =>
    rw [filterColumns, List.flatMap_cons] at ordered
    obtain ⟨more, written, further⟩ := writeFragment_next covers ordered
    rw [writeAll, renderAll_cons]
    cases rendered : fragment.render column params with
    | error cause =>
      have fails : ¬ fragment.CanRender column params := by
        intro renders
        obtain ⟨text, made⟩ := render_fragment_iff.mpr renders
        rw [rendered] at made
        cases made
      refine ⟨[fragment], more, .failing [] fragment rest (by simp) fails, ?_⟩
      rw [rendered] at written
      rw [filterColumns, List.flatMap_singleton]
      exact Asking.bind_of_error _ written
    | ok text =>
      have renders : fragment.CanRender column params := render_fragment_iff.mp ⟨text, rendered⟩
      rw [← List.append_assoc] at ordered
      obtain ⟨reached, last, reaches, others⟩ := ih (further renders) ordered
      refine ⟨fragment :: reached, last, reaches_cons renders reaches, ?_⟩
      rw [rendered] at written
      rw [filterColumns, List.flatMap_cons, ← List.append_assoc]
      refine (Asking.bind_of_ok _ written).trans ?_
      cases following : renderAll column params rest with
      | error cause =>
        rw [following] at others
        exact Asking.bind_of_error _ others
      | ok texts =>
        rw [following] at others
        exact Asking.bind_of_ok _ others

/-- The name that the store gives to a column where its id is first met among the live fragments. -/
def firstName (template : Template) (params : Params) (metadata : Metadata) (earlier : List Lookup) :
    FieldRef → Except LookupError String :=
  metadata.nameIn earlier (filterColumns params (live params template))

/-- Over any store at all, substitution goes through the live fragments up to the first that does not
render, and looks up the columns that it comes to. -/
theorem substitute_reaches (template : Template) (params : Params) (timeout : Option Duration)
    (metadata : Metadata) (earlier : List Lookup) :
    ∃ reached, Reaches (Fragment.CanRender (template.firstName params metadata earlier) params)
        (live params template) reached ∧
      template.substitute params timeout metadata earlier =
        ⟨(renderAll (template.firstName params metadata earlier) params (live params template)).map
            fun text => { text := Text.trim text, options := Options.withTimeout? {} timeout },
          earlier ++ FieldRef.lookups (filterColumns params reached)⟩ := by
  have covers := FieldNames.covers_empty (template.firstName params metadata earlier)
  obtain ⟨reached, names, reaches, written⟩ := writeAll_reaches covers rfl
  refine ⟨reached, reaches, ?_⟩
  have none : earlier ++ FieldRef.lookups [] = earlier := List.append_nil earlier
  rw [← write_live, none, List.nil_append] at written
  rw [substitute]
  cases rendered : renderAll (template.firstName params metadata earlier) params
      (live params template) with
  | error cause =>
    rw [rendered] at written
    exact Asking.bind_of_error _ written
  | ok text =>
    rw [rendered] at written
    refine (Asking.bind_of_ok _ written).trans ?_
    rfl

/-- The lookups of a substitution, over any store. No table is looked up. The columns that are looked
up are those of the field filters among the live references, each id once where it is first referred
to, up to the first live reference that does not render, which is the one that is reported. -/
theorem substitution_looks_up_reached_columns (template : Template) (params : Params)
    (timeout : Option Duration) (metadata : Metadata) (earlier : List Lookup) :
    ∃ reached made,
      Reaches (Fragment.CanRender (template.firstName params metadata earlier) params)
        (live params template) reached ∧
      (template.substitute params timeout metadata earlier).lookups = earlier ++ made ∧
      made = FieldRef.lookups (filterColumns params reached) ∧ made.Nodup ∧
      (∀ id, .table id ∉ made) ∧
      (∀ id, .field id ∈ made ↔ ∃ name filter, .reference name ∈ reached ∧
        params.find? name = some (.fieldFilter filter) ∧ filter.field = .byId id) ∧
      (template.substitute params timeout metadata earlier).result =
        (renderAll (template.firstName params metadata earlier) params (live params template)).map
          fun text => { text := Text.trim text, options := Options.withTimeout? {} timeout } := by
  obtain ⟨reached, reaches, ended⟩ := substitute_reaches template params timeout metadata earlier
  rw [ended]
  refine ⟨reached, _, reaches, rfl, rfl, FieldRef.nodup_lookups _, ?_, ?_, rfl⟩
  · intro id
    simp [FieldRef.lookups]
  · intro id
    rw [FieldRef.mem_lookups, mem_filterColumns]

/-- A clause that is left out for a parameter without a value, with a filter in it that nothing else
refers to, and a filter that is referred to twice before an unknown parameter. -/
example : (substitute
    [ .optional [.reference "dropped", .reference "absent"], .reference "used",
      .optional [.reference "used"], .reference "unknown", .reference "late" ]
    [ ("dropped", .fieldFilter ⟨.byId 1, .equal, [.boolean true], true⟩), ("absent", .noValue),
      ("used", .fieldFilter ⟨.byId 2, .equal, [.boolean true], true⟩),
      ("late", .fieldFilter ⟨.byId 3, .equal, [.boolean true], true⟩) ]
    none (fun _ _ => .ok "c") []).lookups = [.field 2] := rfl

end Template

end ColumnQuery
