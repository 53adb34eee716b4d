/-! Where the names of tables and columns come from. Queries refer to them by id, and a store outside
this library answers with their names. Nothing is assumed of its answers: they may depend on the
lookups made before. -/
namespace ColumnQuery

/-- One question to the store. -/
inductive Lookup
  | table (id : Int64)
  | field (id : Int64)
deriving DecidableEq

/-- Why a name was not found. -/
inductive LookupError
  | tableNotFound (id : Int64)
  | fieldNotFound (id : Int64)
  | failed (reason : String)
deriving DecidableEq

/-- The text of a failed lookup. -/
def LookupError.message : LookupError → String
  | .tableNotFound id => "Table " ++ toString id.toInt ++ " not found"
  | .fieldNotFound id => "Field " ++ toString id.toInt ++ " not found"
  | .failed reason => "Metadata lookup failed: " ++ reason

/-- A store of names: the answer to a lookup, given the lookups made before it. -/
abbrev Metadata := List Lookup → Lookup → Except LookupError String

/-- Whether the answers depend on the lookup alone. -/
def Metadata.IsSteady (metadata : Metadata) : Prop :=
  ∀ earlier later lookup, metadata earlier lookup = metadata later lookup

end ColumnQuery
