import ColumnQuery.Metadata.Basic

/-! A fixed catalog of names, which answers every lookup the same way each time. -/
namespace ColumnQuery

/-- The names of tables and of columns by their ids. Of two names for one id the first counts. -/
structure Catalog where
  tables : List (Int64 × String) := []
  fields : List (Int64 × String) := []

namespace Catalog

/-- Names a table, in place of any earlier name. -/
def addTable (catalog : Catalog) (id : Int64) (name : String) : Catalog :=
  { catalog with tables := (id, name) :: catalog.tables }

/-- Names a column, in place of any earlier name. -/
def addField (catalog : Catalog) (id : Int64) (name : String) : Catalog :=
  { catalog with fields := (id, name) :: catalog.fields }

/-- The answer of the catalog to a lookup. -/
def answer (catalog : Catalog) : Lookup → Except LookupError String
  | .table id =>
    match catalog.tables.lookup id with
    | some name => .ok name
    | none => .error (.tableNotFound id)
  | .field id =>
    match catalog.fields.lookup id with
    | some name => .ok name
    | none => .error (.fieldNotFound id)

/-- The catalog as a store of names. -/
def metadata (catalog : Catalog) : Metadata :=
  fun _ lookup => catalog.answer lookup

theorem metadata_isSteady (catalog : Catalog) : catalog.metadata.IsSteady :=
  fun _ _ _ => rfl

end Catalog

end ColumnQuery
