import ColumnQuery.Decimal.Binary64

/-! TOML values, and how the tables of a document come about. Every table remembers how it was
introduced, because that decides what may still be added to it. -/
namespace ColumnQuery

/-- How a table was introduced: on the way to a header, by a dotted key, by its own header, or as an
inline value, which is complete. -/
inductive Toml.Origin
  | implied
  | dotted
  | header
  | inline
deriving DecidableEq

/-- A TOML value. An array either is a value or grows by headers. A date or a time is kept as its
text. A number is unreadable when it is well written but out of range or without digits: it may
stand wherever nobody asks for its value. -/
inductive Toml
  | string (value : String)
  | integer (value : Int)
  | real (value : Binary64)
  | unreadable
  | boolean (value : Bool)
  | moment (text : String)
  | array (growing : Bool) (items : List Toml)
  | table (origin : Toml.Origin) (entries : List (String × Toml))
deriving Inhabited

namespace Toml

/-- The entries of a table by their keys, in the order of the document. -/
abbrev Entries := List (String × Toml)

mutual

/-- Whether every number in a value can be read. -/
def isReadable : Toml → Bool
  | .unreadable => false
  | .array _ items => areReadable items
  | .table _ entries => entriesReadable entries
  | .string _ | .integer _ | .real _ | .boolean _ | .moment _ => true

/-- Whether every number in several values can be read. -/
def areReadable : List Toml → Bool
  | [] => true
  | value :: rest => value.isReadable && areReadable rest

/-- Whether every number in some entries can be read. -/
def entriesReadable : List (String × Toml) → Bool
  | [] => true
  | (_, value) :: rest => value.isReadable && entriesReadable rest

end

/-- Replaces the value under a key, or adds one under a new key. The change may be refused. -/
def alter (key : String) (change : Option Toml → Option Toml) : Entries → Option Entries
  | [] => (change none).map fun value => [(key, value)]
  | (other, held) :: rest =>
    if other = key then (change (some held)).map fun value => (key, value) :: rest
    else (alter key change rest).map ((other, held) :: ·)

/-- Changes the last of several values. -/
def alterLast (change : Toml → Option Toml) : List Toml → Option (List Toml)
  | [] => none
  | [value] => (change value).map ([·])
  | value :: rest => (alterLast change rest).map (value :: ·)

/-- Changes the entries of a table. -/
def alterEntries (change : Entries → Option Entries) : Toml → Option Toml
  | .table origin entries => (change entries).map (.table origin)
  | _ => none

/-- Goes one step along a path. A missing table is added with the given origin, a growing array is
entered at its last item, and a complete value is not entered. -/
def enter (missing : Origin) (change : Entries → Option Entries) : Option Toml → Option Toml
  | none => (change []).map (.table missing)
  | some (.array true items) => (alterLast (alterEntries change) items).map (.array true)
  | some (.table .inline _) => none
  | some (.table origin entries) => (change entries).map (.table origin)
  | some _ => none

/-- Changes the entries at the end of a path of headers. -/
def alterAt (change : Entries → Option Entries) : List String → Entries → Option Entries
  | [], entries => change entries
  | key :: rest, entries => alter key (enter .implied (alterAt change rest)) entries

/-- Adds a new entry; a key is given once. -/
def addEntry (key : String) (value : Toml) : Entries → Option Entries :=
  alter key fun
    | none => some value
    | some _ => none

/-- Adds an entry under a dotted key. The tables on the way are new ones, or ones that no header
introduced, and the table that gets the entry was introduced by a dotted key. -/
def addDotted (path : List String) (key : String) (value : Toml) : Entries → Option Entries :=
  match path with
  | [] => addEntry key value
  | [last] => alter last fun
    | some (.table .dotted entries) => (addEntry key value entries).map (.table .dotted)
    | none => (addEntry key value []).map (.table .dotted)
    | some _ => none
  | first :: rest => alter first fun
    | some (.table .header _) => none
    | held => enter .dotted (addDotted rest key value) held

/-- Opens the table of a header: a new one, or one that is only implied so far. -/
def openTable (key : String) : Entries → Option Entries :=
  alter key fun
    | none => some (.table .header [])
    | some (.table .implied entries) => some (.table .header entries)
    | some _ => none

/-- Adds an item to a growing array. -/
def openItem (key : String) : Entries → Option Entries :=
  alter key fun
    | none => some (.array true [.table .header []])
    | some (.array true items) => some (.array true (items ++ [.table .header []]))
    | some _ => none

end Toml

end ColumnQuery
