import ColumnQuery.Metadata.Catalog
import ColumnQuery.Proofs.Template.Lookups

/-! What substitution means over a store whose answers do not change: the live renderings one after the
other, or the error of the first live reference that has none. -/
namespace ColumnQuery
open Sql

namespace Template

variable {template : Template} {params : Params} {metadata : Metadata}

/-- A substitution renders the live fragments and trims what they come to. -/
theorem substitute_renders (steady : metadata.IsSteady) (timeout : Option Duration)
    (earlier : List Lookup) : (template.substitute params timeout metadata earlier).result =
      (renderAll metadata.column params (live params template)).map fun text =>
        { text := Text.trim text, options := Options.withTimeout? {} timeout } := by
  obtain ⟨reached, -, ended⟩ := substitute_reaches template params timeout metadata earlier
  rw [ended, firstName, Metadata.nameIn_steady steady]

/-- Substitution over a store whose answers do not change. It succeeds exactly when every live
reference renders on its own; then the statement is the live texts and these renderings one after
the other, without the blanks around the whole. Otherwise the error is that of the first live
reference that does not render. A missing parameter is only ever reported for a reference outside
every optional clause. -/
theorem substitute_means_live_renderings {timeout : Option Duration} {earlier : List Lookup}
    {outcome : Except SubstitutionError SubstitutedQuery} (steady : metadata.IsSteady)
    (ended : (template.substitute params timeout metadata earlier).result = outcome) :
    ((∃ query, outcome = .ok query) ↔
      ∀ fragment ∈ live params template, fragment.CanRender metadata.column params) ∧
    (∀ query, outcome = .ok query → ∃ texts,
      List.Forall₂ (fun fragment text => fragment.render metadata.column params = .ok text)
        (live params template) texts ∧ query.text = Text.trim (String.join texts)) ∧
    (∀ error, outcome = .error error → ∃ before name after,
      live params template = before ++ .reference name :: after ∧
        (∀ fragment ∈ before, fragment.CanRender metadata.column params) ∧
          (Fragment.reference name).render metadata.column params = .error error) ∧
    (∀ name, outcome = .error (.missingRequired name) ∨ outcome = .error (.missingParameter name) →
      ∃ before after, template = before ++ .reference name :: after ∧
        (∀ fragment ∈ live params before, fragment.CanRender metadata.column params) ∧
          params.lacks name = true) := by
  rw [substitute_renders steady] at ended
  subst outcome
  refine ⟨?_, ?_, ?_, ?_⟩
  · rw [← renderAll_ok_iff]
    constructor
    · rintro ⟨query, made⟩
      obtain ⟨text, rendered, -⟩ := Outcome.ok_of_map made
      exact ⟨text, rendered⟩
    · rintro ⟨text, rendered⟩
      rw [rendered]
      exact ⟨_, rfl⟩
  · intro query made
    obtain ⟨text, rendered, rfl⟩ := Outcome.ok_of_map made
    obtain ⟨texts, each, rfl⟩ := Outcome.ok_of_map rendered
    exact ⟨texts, Outcome.ok_of_mapM each, rfl⟩
  · intro error failed
    exact renderAll_error (Outcome.error_of_map failed)
  · intro name failed
    have missing : ∃ error, renderAll metadata.column params (live params template) = .error error ∧
        (error = .missingRequired name ∨ error = .missingParameter name) := by
      rcases failed with failed | failed
      · exact ⟨_, Outcome.error_of_map failed, .inl rfl⟩
      · exact ⟨_, Outcome.error_of_map failed, .inr rfl⟩
    obtain ⟨error, failed, missing⟩ := missing
    obtain ⟨before, reference, after, split, passed, fails⟩ := renderAll_error failed
    obtain ⟨rfl, lacks⟩ := reported_lacks fails missing
    obtain ⟨left, right, same, rfl, -⟩ := lacking_stands_directly lacks split
    exact ⟨left, right, same, passed, lacks⟩

/-- A clause that is written, with a clause in it that is left out. -/
def nestedClauses : Template :=
  [ .text " SELECT 1",
    .optional [.text " WHERE ", .reference "kind", .optional [.text " AND n IN ", .reference "n"]],
    .text " LIMIT ", .reference "rows", .text "\n" ]

def nestedParams : Params :=
  [ ("kind", .fieldFilter ⟨.byId 7, .equal, [.text "it's"], true⟩), ("n", .list []),
    ("rows", .scalar (.integer 5)) ]

def oneColumn : Catalog where
  fields := [(7, "kind")]

/-- A group within a group: what is live is written, and the group without a value is left out. -/
theorem nested_clauses_mean_live_renderings :
    (nestedClauses.substitute nestedParams none oneColumn.metadata []).result =
      .ok ⟨"SELECT 1 WHERE \"kind\" = 'it''s' LIMIT 5", {}⟩ ∧
    live nestedParams nestedClauses = [ .text " SELECT 1", .text " WHERE ", .reference "kind",
      .text " LIMIT ", .reference "rows", .text "\n" ] ∧
    ∀ fragment ∈ live nestedParams nestedClauses,
      fragment.CanRender oneColumn.metadata.column nestedParams := by
  have ended : (nestedClauses.substitute nestedParams none oneColumn.metadata []).result =
      .ok ⟨"SELECT 1 WHERE \"kind\" = 'it''s' LIMIT 5", {}⟩ := rfl
  obtain ⟨succeeds, -, -, -⟩ := substitute_means_live_renderings oneColumn.metadata_isSteady ended
  exact ⟨ended, by rfl, succeeds.mp ⟨_, rfl⟩⟩

end Template

end ColumnQuery
