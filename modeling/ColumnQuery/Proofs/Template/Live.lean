import ColumnQuery.Proofs.Asking
import ColumnQuery.Template.Substitution

/-! The live fragments of a template: what is left of it once every optional clause is either left
out or put in the place where it stands. Writing a template is writing its live fragments one after
the other, whatever the store answers. -/
namespace ColumnQuery
open Sql

/-- Nothing is there to inline under a name: there is no entry, an entry without a value, or an
empty list. -/
def Params.lacks (params : Params) (name : String) : Bool :=
  match params.find? name with
  | none => true
  | some .noValue => true
  | some (.list []) => true
  | some _ => false

/-- A part of a template without optional clauses. -/
inductive Fragment
  | text (content : String)
  | reference (name : String)
deriving DecidableEq

namespace Template

/-- The parameters that stand directly in a clause, and not in a clause of it. -/
def directReferences : List TemplatePart → List String
  | [] => []
  | .reference name :: rest => name :: directReferences rest
  | .text _ :: rest => directReferences rest
  | .optional _ :: rest => directReferences rest

mutual

/-- The live fragments of a part. An optional clause has none when a parameter that stands directly
in it has nothing to inline. -/
def livePart (params : Params) : TemplatePart → List Fragment
  | .text content => [.text content]
  | .reference name => [.reference name]
  | .optional parts => if (directReferences parts).any params.lacks then [] else live params parts

/-- The live fragments of a template in their order. -/
def live (params : Params) : List TemplatePart → List Fragment
  | [] => []
  | part :: rest => livePart params part ++ live params rest

end

variable {params : Params} {names : FieldNames}

theorem lacks_eq (name : String) : params.lacks name = !Param.hasValue (params.find? name) := by
  unfold Params.lacks Param.hasValue
  cases params.find? name with
  | none => rfl
  | some param =>
    cases param with
    | list values => cases values <;> rfl
    | _ => rfl

/-- A clause is written exactly when no parameter that stands directly in it lacks a value. -/
theorem isLive_eq (parts : List TemplatePart) :
    isLive params parts = !(directReferences parts).any params.lacks := by
  induction parts with
  | nil => rfl
  | cons part rest ih =>
    rw [isLive, List.all_cons, ← isLive, ih]
    cases part with
    | text content => rfl
    | reference name =>
      rw [directReferences, List.any_cons, lacks_eq, keeps, Bool.not_or, Bool.not_not]
    | optional parts => rfl

/-! ## References -/

theorem reference_of_direct {parts : List TemplatePart} {name : String}
    (direct : name ∈ directReferences parts) : name ∈ Template.references parts := by
  induction parts with
  | nil => cases direct
  | cons part rest ih =>
    rw [Template.references]
    cases part with
    | reference other =>
      rcases List.mem_cons.mp direct with rfl | later
      · exact List.mem_append_left _ (.head _)
      · exact List.mem_append_right _ (ih later)
    | _ => exact List.mem_append_right _ (ih direct)

mutual

/-- What is live of a part refers only to what the part refers to. -/
theorem reference_of_livePart (part : TemplatePart) {name : String}
    (member : .reference name ∈ livePart params part) : name ∈ part.references := by
  cases part with
  | text content => cases List.mem_singleton.mp member
  | reference other =>
    cases List.mem_singleton.mp member
    exact .head _
  | optional parts =>
    rw [livePart] at member
    split at member
    · cases member
    · exact reference_of_live parts member

theorem reference_of_live (parts : List TemplatePart) {name : String}
    (member : .reference name ∈ live params parts) : name ∈ Template.references parts := by
  cases parts with
  | nil => cases member
  | cons part rest =>
    rcases List.mem_append.mp member with here | later
    · exact List.mem_append_left _ (reference_of_livePart part here)
    · exact List.mem_append_right _ (reference_of_live rest later)

end

section Alike

variable {other : Params}

mutual

/-- Which parts are live depends only on which references lack a value. -/
theorem livePart_alike (part : TemplatePart)
    (alike : ∀ name ∈ part.references, params.lacks name = other.lacks name) :
    livePart params part = livePart other part := by
  cases part with
  | optional parts =>
    have direct : (directReferences parts).any params.lacks =
        (directReferences parts).any other.lacks := by
      rw [Bool.eq_iff_iff, List.any_eq_true, List.any_eq_true]
      refine exists_congr fun name => and_congr_right fun stands => ?_
      rw [alike name (reference_of_direct stands)]
    rw [livePart, livePart, direct, live_alike parts alike]
  | _ => rfl

/-- Which fragments are live depends only on which of the parameters referred to lack a value. -/
theorem live_alike (parts : List TemplatePart)
    (alike : ∀ name ∈ Template.references parts, params.lacks name = other.lacks name) :
    live params parts = live other parts := by
  cases parts with
  | nil => rfl
  | cons part rest =>
    rw [live, live, livePart_alike part fun name member => alike name (List.mem_append_left _ member),
      live_alike rest fun name member => alike name (List.mem_append_right _ member)]

end

end Alike

/-! ## Writing fragments -/

def writeFragment (params : Params) (names : FieldNames) :
    Fragment → Asking SubstitutionError (FieldNames × String)
  | .text content => return (names, content)
  | .reference name => writeReference params names name

/-- Writes fragments one after the other. -/
def writeAll (params : Params) (names : FieldNames) :
    List Fragment → Asking SubstitutionError (FieldNames × String)
  | [] => return (names, "")
  | fragment :: rest => do
    let (names, first) ← writeFragment params names fragment
    let (names, others) ← writeAll params names rest
    return (names, first ++ others)

section Reference

variable {name : String} {param : Param} {metadata : Metadata} {lookups later : List Lookup}

/-- Once the column of a parameter has a name, the parameter is written with it. -/
theorem writeReference_ready {more : FieldNames} (given : params.find? name = some param)
    (ready : ensureColumn names param metadata lookups = ⟨.ok more, later⟩) :
    writeReference params names name metadata lookups =
      ⟨((param.phrase more name).mapError .ofRender).map fun phrase => (more, Phrase.text phrase),
        later⟩ := by
  rw [writeReference, given]
  change Asking.andThen _ _ metadata lookups = _
  rw [Asking.andThen, Asking.mapError, ready]
  change Asking.andThen _ _ metadata later = _
  rw [Asking.andThen, Asking.ofExcept]
  cases (param.phrase more name).mapError SubstitutionError.ofRender <;> rfl

theorem writeReference_unresolved {cause : LookupError} (given : params.find? name = some param)
    (unresolved : ensureColumn names param metadata lookups = ⟨.error cause, later⟩) :
    writeReference params names name metadata lookups = ⟨.error (.unresolved cause), later⟩ := by
  rw [writeReference, given]
  change Asking.andThen _ _ metadata lookups = _
  rw [Asking.andThen, Asking.mapError, unresolved]

end Reference

theorem writeAll_single (fragment : Fragment) :
    writeAll params names [fragment] = writeFragment params names fragment := by
  simp [writeAll]

/-- Fragments are written one after the other. -/
theorem writeAll_append (first second : List Fragment) :
    writeAll params names (first ++ second) = do
      let (names, before) ← writeAll params names first
      let (names, after) ← writeAll params names second
      return (names, before ++ after) := by
  induction first generalizing names with
  | nil => simp [writeAll]
  | cons fragment rest ih => simp [writeAll, ih, String.append_assoc]

mutual

/-- A part is written as what is live of it. -/
theorem writePart_live (names : FieldNames) (part : TemplatePart) :
    writePart params names part = writeAll params names (livePart params part) := by
  cases part with
  | text content => rw [livePart, writeAll_single, writePart, writeFragment]
  | reference name => rw [livePart, writeAll_single, writePart, writeFragment]
  | optional parts =>
    rw [writePart, livePart, isLive_eq, write_live names parts]
    cases (directReferences parts).any params.lacks <;> rfl

/-- Writing a template is writing its live fragments: the same text and the same error, after the
same lookups. -/
theorem write_live (names : FieldNames) (template : Template) :
    write params names template = writeAll params names (live params template) := by
  cases template with
  | nil => rfl
  | cons part rest =>
    rw [write, live, writeAll_append, writePart_live names part]
    simp only [write_live _ rest]

end

/-! ## Where a value may lack -/

mutual

/-- Inside an optional clause that is written, every reference has something to inline. -/
theorem live_clause_lacks_nothing (parts : List TemplatePart) {name : String}
    (member : .reference name ∈ livePart params (.optional parts)) : params.lacks name = false := by
  rw [livePart] at member
  cases lacking : (directReferences parts).any params.lacks with
  | true => simp [lacking] at member
  | false =>
    simp only [lacking, Bool.false_eq_true, ↓reduceIte] at member
    exact live_parts_lack_nothing parts (by simpa using lacking) member

/-- Where no reference outside of groups lacks a value, no live reference does. -/
theorem live_parts_lack_nothing (parts : List TemplatePart) {name : String}
    (kept : ∀ direct ∈ directReferences parts, params.lacks direct = false)
    (member : .reference name ∈ live params parts) : params.lacks name = false := by
  cases parts with
  | nil => cases member
  | cons part rest =>
    rcases List.mem_append.mp member with here | later
    · cases part with
      | text content => cases List.mem_singleton.mp here
      | reference direct =>
        cases List.mem_singleton.mp here
        exact kept name (.head _)
      | optional parts => exact live_clause_lacks_nothing parts here
    · refine live_parts_lack_nothing rest (fun direct stands => kept direct ?_) later
      cases part with
      | reference name => exact .tail _ stands
      | _ => exact stands

end

/-- Where a list is split at a member, a first stretch without the member lies before the split. -/
theorem split_beyond {first rest before after : List Fragment} {fragment : Fragment}
    (split : first ++ rest = before ++ fragment :: after) (other : fragment ∉ first) :
    ∃ more, before = first ++ more ∧ rest = more ++ fragment :: after := by
  rcases List.append_eq_append_iff.mp split with ⟨more, same, tail⟩ | ⟨more, same, tail⟩
  · exact ⟨more, same, tail⟩
  · cases more with
    | nil => exact ⟨[], by simp [same], tail.symm⟩
    | cons found more =>
      obtain ⟨rfl, -⟩ := List.cons.inj tail
      exact absurd (same ▸ List.mem_append_right before (.head more)) other

/-- A live reference that lacks a value stands outside every optional clause. -/
theorem lacking_stands_directly {template : Template} {before after : List Fragment} {name : String}
    (lacks : params.lacks name = true)
    (split : live params template = before ++ .reference name :: after) :
    ∃ left right, template = left ++ .reference name :: right ∧ live params left = before ∧
      live params right = after := by
  induction template generalizing before with
  | nil => simp [live] at split
  | cons part rest ih =>
    have further {more : List Fragment} (whole : before = livePart params part ++ more)
        (split : live params rest = more ++ .reference name :: after) :
        ∃ left right, part :: rest = left ++ .reference name :: right ∧
          live params left = before ∧ live params right = after := by
      obtain ⟨left, right, rfl, rfl, same⟩ := ih split
      exact ⟨part :: left, right, rfl, whole.symm, same⟩
    cases part with
    | text content =>
      obtain ⟨more, whole, split⟩ := split_beyond split (by simp [livePart])
      exact further whole split
    | reference direct =>
      cases before with
      | nil =>
        cases split
        exact ⟨[], rest, rfl, rfl, rfl⟩
      | cons fragment more =>
        obtain ⟨rfl, others⟩ := List.cons.inj split
        exact further rfl others
    | optional parts =>
      have other : .reference name ∉ livePart params (.optional parts) := by
        intro member
        rw [live_clause_lacks_nothing parts member] at lacks
        cases lacks
      obtain ⟨more, whole, split⟩ := split_beyond split other
      exact further whole split

end Template

end ColumnQuery
