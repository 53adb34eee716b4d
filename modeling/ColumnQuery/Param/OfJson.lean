import ColumnQuery.Json.Basic
import ColumnQuery.Param.Basic

/-! Parameters as a JSON object. Null is an empty parameter, a scalar and a list stand for themselves,
and an object is a field filter. -/
namespace ColumnQuery
open Sql

/-- What is wrong with a given value. -/
inductive ParamFault
  | notAnObject
  | nested
  | unsupported
  | fieldId
  | field
  | noField
  | operator
  | caseSensitivity
deriving DecidableEq

/-- The text of a fault. -/
def ParamFault.message : ParamFault → String
  | .notAnObject => "parameters must be a JSON object"
  | .nested => "nested values"
  | .unsupported => "unsupported value"
  | .fieldId => "field id must be an integer"
  | .field => "field must be an id or a column name"
  | .noField => "objects must name a field"
  | .operator => "operator must be a string"
  | .caseSensitivity => "case-sensitive must be a boolean"

/-- Why parameters cannot be read. -/
inductive ParamError
  | invalid (name : String) (fault : ParamFault)
  | unsupportedOperator (name : String)
deriving DecidableEq

/-- The text of the reason. -/
def ParamError.message : ParamError → String
  | .invalid name fault => "Invalid value for parameter '" ++ name ++ "': " ++ fault.message
  | .unsupportedOperator name => "Unsupported operator: " ++ name

namespace Param

/-- Reads a list of scalars. -/
def literalsOfJson (name : String) (items : List Json) : Except ParamError (List Literal) :=
  items.mapM fun item =>
    match Literal.ofJson? item with
    | some value => .ok value
    | none => .error (.invalid name .nested)

/-- Reads the column of a field filter. -/
def fieldOfJson (name : String) : Option Json → Except ParamError FieldRef
  | some (.number n) =>
    match n.int64? with
    | some id => .ok (.byId id)
    | none => .error (.invalid name .fieldId)
  | some (.string column) => .ok (.byName column)
  | some _ => .error (.invalid name .field)
  | none => .error (.invalid name .noField)

/-- Reads the operator of a field filter; it is equality unless given. -/
def operatorOfJson (name : String) : Option Json → Except ParamError Operator
  | some (.string word) =>
    match Operator.ofName? word with
    | some operator => .ok operator
    | none => .error (.unsupportedOperator word)
  | some _ => .error (.invalid name .operator)
  | none => .ok .equal

/-- Reads the values of a field filter; a scalar is a list of one. -/
def valuesOfJson (name : String) : Option Json → Except ParamError (List Literal)
  | none => .ok []
  | some (.array items) => literalsOfJson name items
  | some value =>
    match Literal.ofJson? value with
    | some literal => .ok [literal]
    | none => .error (.invalid name .unsupported)

/-- Reads whether case counts; it does unless told otherwise. -/
def caseSensitiveOfJson (name : String) : Option Json → Except ParamError Bool
  | none => .ok true
  | some (.bool value) => .ok value
  | some _ => .error (.invalid name .caseSensitivity)

/-- Reads a field filter. -/
def filterOfJson (name : String) (members : Keyed Json) : Except ParamError FieldFilter := do
  let field ← fieldOfJson name (members.find? "field")
  let operator ← operatorOfJson name (members.find? "operator")
  let values ← valuesOfJson name (members.find? "value")
  let caseSensitive ← caseSensitiveOfJson name (members.find? "case-sensitive")
  return { field, operator, values, caseSensitive }

/-- Reads what is given for a parameter of a given name. -/
def ofJson (name : String) : Json → Except ParamError Param
  | .null => .ok .noValue
  | .array items => (literalsOfJson name items).map .list
  | .object members => (filterOfJson name members).map .fieldFilter
  | value =>
    match Literal.ofJson? value with
    | some literal => .ok (.scalar literal)
    | none => .error (.invalid name .unsupported)

end Param

namespace Params

/-- Reads the members of an object, the first that cannot be read deciding the error. -/
def ofMembers : List (String × Json) → Except ParamError (List (String × Param))
  | [] => .ok []
  | (name, value) :: rest => do
    let param ← Param.ofJson name value
    let params ← ofMembers rest
    return (name, param) :: params

/-- Reads parameters from a JSON object, whose members are in the order of their keys. -/
def ofJson : Json → Except ParamError Params
  | .object members => (ofMembers members).map Keyed.ofList
  | _ => .error (.invalid "" .notAnObject)

end Params

end ColumnQuery
