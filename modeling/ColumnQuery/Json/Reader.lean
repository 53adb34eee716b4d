import ColumnQuery.Json.Numeral
import ColumnQuery.Text.Basic

/-! Reading JSON texts. A text holds one value with blanks around it; of the members of an object
with one key the last stays. Arrays and objects may be nested 127 deep. -/
namespace ColumnQuery.Json
open Text

/-- The blanks between the parts of a JSON text. -/
def isSpace (c : Char) : Bool :=
  c = ' ' || c = '\n' || c = '\t' || c = '\r'

/-- The first code unit of a pair. -/
def isHighSurrogate (unit : Nat) : Bool :=
  0xd800 ≤ unit && unit < 0xdc00

/-- The second code unit of a pair. -/
def isLowSurrogate (unit : Nat) : Bool :=
  0xdc00 ≤ unit && unit < 0xe000

/-- The character that a pair of code units stands for. -/
def ofSurrogates (high low : Nat) : Char :=
  Char.ofNat (0x10000 + (high - 0xd800) * 0x400 + (low - 0xdc00))

/-- The character that a backslash and a letter stand for. -/
def unescaped? (c : Char) : Option Char :=
  match c with
  | '"' => some '"'
  | '\\' => some '\\'
  | '/' => some '/'
  | 'b' => some '\x08'
  | 'f' => some '\x0c'
  | 'n' => some '\n'
  | 'r' => some '\r'
  | 't' => some '\t'
  | _ => none

/-- A character in front of what a string goes on with. -/
def prepend {cs ds : List Char} (c : Char) (longer : ds.length ≤ cs.length)
    (read : List Char × Shorter ds) : List Char × Shorter cs :=
  (c :: read.1, ⟨read.2.1, Nat.lt_of_lt_of_le read.2.2 longer⟩)

/-- Reads a string from after its opening quote to after its closing quote. Code units beyond the
first plane come in pairs. -/
def readString (cs : List Char) : Option (List Char × Shorter cs) :=
  match cs with
  | [] => none
  | '"' :: rest => some ([], ⟨rest, by simp⟩)
  | '\\' :: 'u' :: a :: b :: c :: d :: rest =>
    match hexNumber? [a, b, c, d] with
    | none => none
    | some unit =>
      if isHighSurrogate unit then
        match rest with
        | '\\' :: 'u' :: e :: f :: g :: h :: tail =>
          match hexNumber? [e, f, g, h] with
          | none => none
          | some second =>
            if isLowSurrogate second then
              (readString tail).map (prepend (ofSurrogates unit second) (by simp; omega))
            else none
        | _ => none
      else if isLowSurrogate unit then none
      else (readString rest).map (prepend (Char.ofNat unit) (by simp; omega))
  | '\\' :: c :: rest =>
    match unescaped? c with
    | none => none
    | some plain => (readString rest).map (prepend plain (by simp; omega))
  | c :: rest => if c.toNat < 0x20 then none else (readString rest).map (prepend c (by simp))

/-- The text after its leading blanks. -/
def skipSpace (cs : List Char) : Remainder cs :=
  Remainder.skip isSpace cs

/-- Reads a number from its first character on. -/
def readNumber (cs : List Char) : Option (Number × Remainder cs) :=
  match Shorter.after? '-' cs with
  | some rest => do
    let (numeral, after) ← Numeral.readDigits true rest.1
    return (← numeral.number?, (rest.trans after).toRemainder)
  | none => do
    let (numeral, after) ← Numeral.readDigits false cs
    return (← numeral.number?, after)

/-- Reads a value that is neither an array nor an object from its first character on. -/
def readScalar (cs : List Char) : Option (Json × Remainder cs) :=
  match cs with
  | '"' :: rest =>
    (readString rest).map fun (chars, after) =>
      (.string (String.ofList chars), (Shorter.ofTail after.toRemainder).toRemainder)
  | 't' :: _ => (Remainder.after? ['t', 'r', 'u', 'e'] _).map (.bool true, ·)
  | 'f' :: _ => (Remainder.after? ['f', 'a', 'l', 's', 'e'] _).map (.bool false, ·)
  | 'n' :: _ => (Remainder.after? ['n', 'u', 'l', 'l'] _).map (.null, ·)
  | other => (readNumber other).map fun (value, after) => (.number value, after)

/-- Reads a key and the colon after it, up to the value. -/
def readKey (cs : List Char) : Option (String × Shorter cs) := do
  let opened ← Shorter.after? '"' cs
  let (chars, closed) ← readString opened.1
  let gap := skipSpace closed.1
  let colon ← Shorter.after? ':' gap.1
  let value := skipSpace colon.1
  return (String.ofList chars,
    opened.transShorter (closed.transShorter (gap.transShorter (colon.trans value))))

mutual

/-- Reads a value from its first character on; `depth` arrays and objects may be nested in it. -/
def readValue (depth : Nat) (cs : List Char) : Option (Json × Remainder cs) :=
  match depth, cs with
  | depth + 1, '[' :: rest =>
    let start := skipSpace rest
    match Shorter.after? ']' start.1 with
    | some after => some (.array [], (Shorter.ofTail (start.trans after.toRemainder)).toRemainder)
    | none =>
      match readItems depth start.1 with
      | none => none
      | some (items, after) =>
        some (.array items, (Shorter.ofTail (start.trans after)).toRemainder)
  | depth + 1, '\x7b' :: rest =>
    let start := skipSpace rest
    match Shorter.after? '\x7d' start.1 with
    | some after => some (.object [], (Shorter.ofTail (start.trans after.toRemainder)).toRemainder)
    | none =>
      match readMembers depth start.1 with
      | none => none
      | some (members, after) =>
        some (.object (Keyed.ofList members), (Shorter.ofTail (start.trans after)).toRemainder)
  | _, scalar => readScalar scalar
termination_by 2 * cs.length
decreasing_by
  all_goals
    exact (Shorter.ofTail (skipSpace rest)).twice_lt

/-- Reads the items of an array from the first one to after the closing bracket. -/
def readItems (depth : Nat) (cs : List Char) : Option (List Json × Remainder cs) :=
  match readValue depth cs with
  | none => none
  | some (item, after) =>
    let gap := after.trans (skipSpace after.1)
    match Shorter.after? ',' gap.1 with
    | some comma =>
      let next := gap.transShorter (comma.trans (skipSpace comma.1))
      match readItems depth next.1 with
      | none => none
      | some (items, rest) => some (item :: items, next.toRemainder.trans rest)
    | none =>
      (Shorter.after? ']' gap.1).map fun rest => ([item], gap.trans rest.toRemainder)
termination_by 2 * cs.length + 1
decreasing_by
  · exact Nat.lt_succ_self _
  · exact Nat.lt_succ_of_lt next.twice_lt

/-- Reads the members of an object from the first one to after the closing brace. -/
def readMembers (depth : Nat) (cs : List Char) : Option (List (String × Json) × Remainder cs) :=
  match readKey cs with
  | none => none
  | some (key, start) =>
    match readValue depth start.1 with
    | none => none
    | some (value, after) =>
      let gap := start.trans (after.trans (skipSpace after.1))
      match Shorter.after? ',' gap.1 with
      | some comma =>
        let next := gap.transShorter (comma.trans (skipSpace comma.1))
        match readMembers depth next.1 with
        | none => none
        | some (members, rest) => some ((key, value) :: members, next.toRemainder.trans rest)
      | none =>
        (Shorter.after? '\x7d' gap.1).map fun rest =>
          ([(key, value)], (gap.transShorter rest).toRemainder)
termination_by 2 * cs.length + 1
decreasing_by
  · exact Nat.lt_succ_of_lt (Nat.lt_of_succ_lt start.twice_lt)
  · exact Nat.lt_succ_of_lt next.twice_lt

end

/-- The value that a text holds, none when it is not one JSON value. -/
def read? (s : String) : Option Json := do
  let start := skipSpace s.toList
  let (value, rest) ← readValue 127 start.1
  if (skipSpace rest.1).1.isEmpty then some value else none

end ColumnQuery.Json
