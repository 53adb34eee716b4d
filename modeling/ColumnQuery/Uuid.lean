import ColumnQuery.Text.Basic

/-! Universally unique identifiers and their canonical text. -/
namespace ColumnQuery
open Text

/-- A 128-bit identifier. -/
structure Uuid where
  value : BitVec 128
deriving DecidableEq

namespace Uuid

/-- The canonical text: 32 lower-case digits in groups of 8, 4, 4, 4 and 12. -/
def text (u : Uuid) : String :=
  let digits := hexDigits 32 u.value.toNat
  let group (start size : Nat) := String.ofList ((digits.drop start).take size)
  group 0 8 ++ "-" ++ group 8 4 ++ "-" ++ group 12 4 ++ "-" ++ group 16 4 ++ "-" ++ group 20 12

/-- Reads 32 hexadecimal digits in either case, with hyphens anywhere between them. -/
def read? (s : String) : Option Uuid :=
  let digits := s.toList.filter (· != '-')
  if digits.length = 32 then (hexNumber? digits).map fun n => ⟨BitVec.ofNat 128 n⟩ else none

end Uuid

end ColumnQuery
