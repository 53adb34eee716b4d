/-! Characters and texts: sets of characters as Unicode tabulates them, blanks and the trimming of a text,
quoted texts, and hexadecimal digits. -/
namespace ColumnQuery.Text

/-! ## Sets of characters -/

/-- A set of characters: the code points of finitely many closed ranges. -/
structure CodePoints where
  ranges : List (Nat × Nat)

/-- A character belongs to the set when its code point lies in one of the ranges. -/
def CodePoints.contains (set : CodePoints) (c : Char) : Bool :=
  set.ranges.any fun range => range.1 ≤ c.toNat && c.toNat ≤ range.2

/-! ## Blanks -/

/-- The Unicode property `White_Space`. -/
def blank : CodePoints where
  ranges :=
    [ (0x9, 0xd), (0x20, 0x20), (0x85, 0x85), (0xa0, 0xa0), (0x1680, 0x1680), (0x2000, 0x200a),
      (0x2028, 0x2029), (0x202f, 0x202f), (0x205f, 0x205f), (0x3000, 0x3000) ]

/-- A blank character of any script. -/
def isBlank (c : Char) : Bool :=
  blank.contains c

/-- The text without the characters of a class at its end. -/
def dropTrailing (p : Char → Bool) (cs : List Char) : List Char :=
  (cs.reverse.dropWhile p).reverse

/-- The text without the characters of a class at either end. -/
def strip (p : Char → Bool) (cs : List Char) : List Char :=
  dropTrailing p (cs.dropWhile p)

/-- The text without the blanks around it. -/
def trim (s : String) : String :=
  String.ofList (strip isBlank s.toList)

/-! ## Quotes

Identifiers and string literals differ only in the quote character. -/

/-- Every occurrence of the quote is written twice, every other character once. -/
def doubled (quote : Char) : List Char → List Char
  | [] => []
  | c :: rest => if c = quote then quote :: quote :: doubled quote rest else c :: doubled quote rest

/-- The text between quotes, with the quotes inside it doubled. -/
def quoted (quote : Char) (s : String) : String :=
  String.ofList (quote :: (doubled quote s.toList ++ [quote]))

/-! ## Hexadecimal digits -/

/-- The lower-case hexadecimal digit for a value below sixteen. -/
def hexDigit (n : Nat) : Char :=
  if n < 10 then Char.ofNat (48 + n) else Char.ofNat (87 + n)

/-- The value of a hexadecimal digit in either case. -/
def hexValue? (c : Char) : Option Nat :=
  if '0' ≤ c ∧ c ≤ '9' then some (c.toNat - 48)
  else if 'a' ≤ c ∧ c ≤ 'f' then some (c.toNat - 87)
  else if 'A' ≤ c ∧ c ≤ 'F' then some (c.toNat - 55)
  else none

/-- The last `count` hexadecimal digits of a number, the highest first. -/
def hexDigits (count n : Nat) : List Char :=
  (List.range count).reverse.map fun place => hexDigit (n / Nat.pow 16 place % 16)

/-- The number that hexadecimal digits stand for, if they all are such digits. -/
def hexNumber? (digits : List Char) : Option Nat :=
  digits.foldlM (fun n c => (hexValue? c).map (16 * n + ·)) 0

end ColumnQuery.Text
