import ColumnQuery.Keyed
import ColumnQuery.Predicate

/-! Values given for the parameters of a template, and the SQL that each becomes. -/
namespace ColumnQuery
open Sql

/-- A column that a parameter filters, with the values it is compared with. -/
structure FieldFilter where
  field : FieldRef
  operator : Operator := .equal
  values : List Literal
  caseSensitive : Bool := true
deriving DecidableEq

/-- What is given for a parameter. A parameter without a value is known but left empty. -/
inductive Param
  | noValue
  | scalar (value : Literal)
  | list (values : List Literal)
  | fieldFilter (filter : FieldFilter)
deriving DecidableEq

/-- Parameters by their names. -/
abbrev Params := Keyed Param

namespace Param

/-- Whether there is something to inline. A list has to hold something; a field filter always counts,
even with nothing to compare with. -/
def hasValue : Option Param → Bool
  | none => false
  | some .noValue => false
  | some (.list values) => !values.isEmpty
  | some (.scalar _) => true
  | some (.fieldFilter _) => true

/-- The SQL of a field filter whose column may have a name. -/
def filterPhrase (names : FieldNames) (filter : FieldFilter) : Except RenderError Phrase :=
  match names.nameOf filter.field with
  | .ok column => Predicate.onField column filter.operator filter.values filter.caseSensitive
  | .error cause => .error (.unresolved cause)

/-- The SQL that is inlined for a parameter of a given name. -/
def phrase (names : FieldNames) (name : String) : Param → Except RenderError Phrase
  | .noValue => .error (.missingParameter name)
  | .scalar value => .ok [.literal value]
  | .list values =>
    match Predicate.values? values with
    | some phrase => .ok phrase
    | none => .error (.missingParameter name)
  | .fieldFilter filter => filterPhrase names filter

end Param

end ColumnQuery
