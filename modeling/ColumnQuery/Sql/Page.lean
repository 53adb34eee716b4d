import ColumnQuery.Sql.Token

/-! How many rows are returned and how many are skipped before them. -/
namespace ColumnQuery.Sql

/-- The number of rows to return and the number of rows to skip, each if it is given. -/
structure Page where
  limit : Option UInt64 := none
  offset : Option UInt64 := none
deriving DecidableEq

namespace Page

/-- The rows before a page, counted from one, or as many as a word can count. -/
def rowsBefore (limit page : UInt64) : UInt64 :=
  UInt64.ofNat (min (limit.toNat * (page.toNat - 1)) (UInt64.size - 1))

/-- The page with a number, of a given size. Without a size there is nothing to skip by, and a page
number alone is ignored. -/
def ofNumber (limit page : Option UInt64) : Page :=
  match limit, page with
  | some size, some number => ⟨limit, some (rowsBefore size number)⟩
  | _, _ => ⟨limit, none⟩

/-- A row count as an integer literal, which ends at the largest signed word. -/
def count (n : UInt64) : Token :=
  .literal (.integer (Int64.ofNat (min n.toNat 0x7fffffffffffffff)))

/-- The clause of a page: the rows to skip, if any, and the rows to return. Without a limit there is
no clause. -/
def phrase (page : Page) : Phrase :=
  match page.limit with
  | none => []
  | some limit =>
    [.keyword .limit, .space] ++
      match page.offset with
      | some offset =>
        if 0 < offset then [count offset, .mark .comma, .space, count limit] else [count limit]
      | none => [count limit]

end Page

end ColumnQuery.Sql
