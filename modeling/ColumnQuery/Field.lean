import ColumnQuery.Metadata.Asking
import ColumnQuery.Sql.Token

/-! References to columns, and the names that were found for them while one query is worked on. The
store is asked at most once for each id: a name stays as first answered. -/
namespace ColumnQuery
open Sql

/-- A column, by its id or by the name it already has. -/
inductive FieldRef
  | byId (id : Int64)
  | byName (name : String)
deriving DecidableEq

/-- The reference in words. -/
def FieldRef.describe : FieldRef → String
  | .byId id => "field " ++ toString id.toInt
  | .byName name => "field '" ++ name ++ "'"

/-- The names found so far, by id, in the order in which they were asked for. -/
structure FieldNames where
  entries : List (Int64 × String) := []

namespace FieldNames

/-- The number of ids with a name. -/
def size (names : FieldNames) : Nat :=
  names.entries.length

/-- The name found for an id. -/
def find? (names : FieldNames) (id : Int64) : Option String :=
  names.entries.lookup id

/-- Adds the name of an id. -/
def add (names : FieldNames) (id : Int64) (name : String) : FieldNames :=
  ⟨names.entries ++ [(id, name)]⟩

/-- Makes sure that the column has a name, which may need a lookup. -/
def ensure (names : FieldNames) : FieldRef → Asking LookupError FieldNames
  | .byName _ => return names
  | .byId id =>
    match names.find? id with
    | some _ => return names
    | none => do
      let name ← Asking.ask (.field id)
      return names.add id name

/-- Makes sure of one column after the other. -/
def ensureAll (names : FieldNames) : List FieldRef → Asking LookupError FieldNames
  | [] => return names
  | field :: rest => do
    let more ← names.ensure field
    more.ensureAll rest

/-- The names of the columns, each id asked for once. -/
def resolve (fields : List FieldRef) : Asking LookupError FieldNames :=
  ensureAll {} fields

/-- The name of a column, without asking for it. -/
def nameOf (names : FieldNames) : FieldRef → Except LookupError String
  | .byName name => .ok name
  | .byId id =>
    match names.find? id with
    | some name => .ok name
    | none => .error (.fieldNotFound id)

/-- The column as an identifier. -/
def identifier (names : FieldNames) (field : FieldRef) : Except LookupError Phrase :=
  (names.nameOf field).map fun name => [.identifier name]

end FieldNames

end ColumnQuery
