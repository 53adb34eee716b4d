import ColumnQuery.Decimal.Binary64
import ColumnQuery.Keyed

/-! JSON values. A number is an integer that fits a signed or an unsigned word, or else a finite
double: the distinction decides what may be an id, a limit or a page. -/
namespace ColumnQuery

/-- A JSON number: an integer that is a signed or an unsigned word of 64 bits, or a finite double. -/
inductive Json.Number
  | integer (value : Int) (low : -0x8000000000000000 ≤ value) (high : value < 0x10000000000000000)
  | real (value : Binary64) (finite : value.isFinite = true)
deriving DecidableEq

/-- A JSON value. The members of an object that was read are sorted by key; a value that is only
written may list them in any order. -/
inductive Json
  | null
  | bool (value : Bool)
  | number (value : Json.Number)
  | string (value : String)
  | array (items : List Json)
  | object (members : List (String × Json))
deriving Inhabited

namespace Json

/-- An unsigned word as a number. -/
def ofWord (n : UInt64) : Json :=
  .number (.integer n.toNat (by omega) (by have := n.toNat_lt; omega))

/-- A signed word as a number. -/
def ofInt64 (n : Int64) : Json :=
  .number (.integer n.toInt (by have := n.le_toInt; omega) (by have := n.toInt_lt; omega))

/-- The number as a signed word, if it is an integer that fits one. -/
def Number.int64? : Number → Option Int64
  | .integer value _ _ => if value < 0x8000000000000000 then some (Int64.ofInt value) else none
  | .real .. => none

/-- The number as an unsigned word, if it is an integer that fits one. -/
def Number.word? : Number → Option UInt64
  | .integer value _ _ => if 0 ≤ value then some (UInt64.ofNat value.toNat) else none
  | .real .. => none

/-- The double nearest to the number. -/
def Number.toBinary64 : Number → Binary64
  | .integer value _ _ =>
    if value < 0 then (Binary64.ofNat value.natAbs).negated else Binary64.ofNat value.natAbs
  | .real value _ => value

/-- A signed word, where the value is one. -/
def int64? : Json → Option Int64
  | .number n => n.int64?
  | _ => none

/-- An unsigned word, where the value is one. -/
def word? : Json → Option UInt64
  | .number n => n.word?
  | _ => none

/-- The text, where the value is a string. -/
def string? : Json → Option String
  | .string s => some s
  | _ => none

/-- The member of an object under a key; other values have no members. -/
def get? (value : Json) (key : String) : Option Json :=
  match value with
  | .object members => Keyed.find? members key
  | _ => none

end Json

end ColumnQuery
