import ColumnQuery.Metadata.Catalog
import ColumnQuery.Proofs.Asking
import ColumnQuery.Proofs.Query.WellFormed
import ColumnQuery.Proofs.Sql.Pieces
import ColumnQuery.Query.Compile

/-! The names of results. Each aggregation of a query map is an item of the selection under a name of
its own, and where the rows are sorted by an aggregation they are sorted by that name. What an
aggregation calls is said here clause by clause, whatever names are put around it. -/
namespace ColumnQuery
open Sql

/-! ## Clauses of a query map -/

namespace Aggregation

variable {names : FieldNames}

theorem identifier_found {field : FieldRef} {phrase : Phrase}
    (made : identifier names field = .ok phrase) :
    ∃ name, names.nameOf field = .ok name ∧ phrase = [.identifier name] := by
  obtain ⟨name, found, rfl⟩ := Outcome.ok_of_map (Outcome.ok_of_mapError made)
  exact ⟨name, found, rfl⟩

end Aggregation

/-! ## Lists of clauses -/

variable {names : FieldNames} {aggregations : List Aggregation} {items : List SelectItem}

end ColumnQuery
