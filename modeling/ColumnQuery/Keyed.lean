/-! Values kept under names, in the order of the names. Names are compared by code point, which is
also the order of their UTF-8 bytes. -/
namespace ColumnQuery

/-- Named values as an association list, sorted by name and without repetition when it is built by
`Keyed.insert`. -/
abbrev Keyed (α : Type) := List (String × α)

namespace Keyed

/-- The value under a name. -/
def find? {α : Type} (entries : Keyed α) (key : String) : Option α :=
  entries.lookup key

/-- Puts a value under a name, in place of an earlier one. -/
def insert {α : Type} (key : String) (value : α) : Keyed α → Keyed α
  | [] => [(key, value)]
  | (other, held) :: rest =>
    if key = other then (key, value) :: rest
    else if key < other then (key, value) :: (other, held) :: rest
    else (other, held) :: insert key value rest

/-- The entries put in one after the other, so that of two under one name the later one stays. -/
def ofList {α : Type} (entries : List (String × α)) : Keyed α :=
  entries.foldl (fun built entry => insert entry.1 entry.2 built) []

end Keyed

end ColumnQuery
