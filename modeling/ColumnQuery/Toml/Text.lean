import ColumnQuery.Text.Basic
import ColumnQuery.Text.Remainder

/-! The strings of TOML: basic ones with escapes and literal ones without, on one line or on
several. -/
namespace ColumnQuery.Toml
open ColumnQuery.Text

/-- Whether a character may stand in a comment or a literal string of one line: a tab, or any
character that is no control character. -/
def isPrintable (c : Char) : Bool :=
  c == '\t' || (0x20 ≤ c.toNat && c.toNat != 0x7f)

/-- The blanks within a line. -/
def isSpace (c : Char) : Bool :=
  c == ' ' || c == '\t'

/-- The character with a code point that hexadecimal digits give. -/
def scalar? (digits : List Char) : Option Char :=
  (hexNumber? digits).bind fun code =>
    if code < 0xd800 ∨ (0xdfff < code ∧ code < 0x110000) then some (Char.ofNat code) else none

/-- Reads a character from so many digits of its code point. -/
def readCode (count : Nat) (cs : List Char) : Option (Char × Remainder cs) :=
  if (cs.take count).length = count then
    (scalar? (cs.take count)).map fun char => (char, Remainder.drop count cs)
  else none

/-- Reads an escape after its backslash. -/
def readEscape (cs : List Char) : Option (Char × Shorter cs) :=
  match cs with
  | 'b' :: rest => some ('\x08', Shorter.tail _ rest)
  | 'e' :: rest => some ('\x1b', Shorter.tail _ rest)
  | 't' :: rest => some ('\t', Shorter.tail _ rest)
  | 'n' :: rest => some ('\n', Shorter.tail _ rest)
  | 'f' :: rest => some ('\x0c', Shorter.tail _ rest)
  | 'r' :: rest => some ('\r', Shorter.tail _ rest)
  | '"' :: rest => some ('"', Shorter.tail _ rest)
  | '\\' :: rest => some ('\\', Shorter.tail _ rest)
  | 'x' :: rest => (readCode 2 rest).map fun (char, after) => (char, Shorter.ofTail after)
  | 'u' :: rest => (readCode 4 rest).map fun (char, after) => (char, Shorter.ofTail after)
  | 'U' :: rest => (readCode 8 rest).map fun (char, after) => (char, Shorter.ofTail after)
  | _ => none

/-- Reads the rest of a line that holds nothing but blanks: what follows the line break, if that is
what comes. -/
def readLineEnd (cs : List Char) : Option (Shorter cs) :=
  match cs with
  | '\n' :: rest => some (Shorter.tail _ rest)
  | '\r' :: '\n' :: rest => some ((Shorter.tail _ _).transShorter (Shorter.tail _ rest))
  | _ => none

/-- The characters of the line break that a text begins with. -/
def lineBreakOf : List Char → List Char
  | '\r' :: _ => ['\r', '\n']
  | _ => ['\n']

/-- Skips blanks and line breaks. -/
def skipBlankLines (cs : List Char) : Remainder cs :=
  let blanks := Remainder.skip isSpace cs
  match readLineEnd blanks.1 with
  | none => blanks
  | some next =>
    let after := blanks.transShorter next
    after.toRemainder.trans (skipBlankLines after.1)
termination_by cs.length
decreasing_by exact after.2

/-- Reads a basic string from after its opening quote. -/
def readBasic (cs : List Char) : Option (List Char × Shorter cs) :=
  match cs with
  | [] => none
  | '"' :: rest => some ([], Shorter.tail _ rest)
  | '\\' :: rest =>
    match readEscape rest with
    | none => none
    | some (char, after) =>
      (readBasic after.1).map fun (chars, final) =>
        (char :: chars, (Shorter.tail _ rest).transShorter (after.transShorter final))
  | c :: rest =>
    if isPrintable c then
      (readBasic rest).map fun (chars, final) =>
        (c :: chars, (Shorter.tail c rest).transShorter final)
    else none
termination_by cs.length
decreasing_by
  · exact ((Shorter.tail _ rest).transShorter after).2
  · exact Nat.lt_succ_self _

/-- Reads a literal string from after its opening quote. -/
def readLiteral (cs : List Char) : Option (List Char × Shorter cs) :=
  match cs with
  | [] => none
  | '\'' :: rest => some ([], Shorter.tail _ rest)
  | c :: rest =>
    if isPrintable c then
      (readLiteral rest).map fun (chars, final) =>
        (c :: chars, (Shorter.tail c rest).transShorter final)
    else none

/-- What follows a backslash at the end of a line: the line break and all blanks and line breaks
after it. -/
def skipContinuation (cs : List Char) : Option (Shorter cs) :=
  let blanks := Remainder.skip isSpace cs
  match readLineEnd blanks.1 with
  | none => none
  | some next => some (blanks.transShorter (next.trans (skipBlankLines next.1)))

/-- Reads the end of a string of several lines: three quotes, with up to two more before them that
belong to the string. -/
def readLongEnd (quote : Char) (cs : List Char) : Option (List Char × Shorter cs) :=
  match cs with
  | a :: b :: c :: rest =>
    if a = quote ∧ b = quote ∧ c = quote then
      match rest with
      | d :: e :: tail =>
        if d = quote ∧ e = quote then some ([quote, quote], ⟨tail, by simp; omega⟩)
        else if d = quote then some ([quote], ⟨e :: tail, by simp⟩)
        else some ([], ⟨d :: e :: tail, by simp⟩)
      | [d] => if d = quote then some ([quote], ⟨[], by simp⟩) else some ([], ⟨[d], by simp⟩)
      | [] => some ([], ⟨[], by simp⟩)
    else none
  | _ => none

/-- Reads a string of several lines from after its opening quotes; escapes count in a basic one. Its
line breaks stay as they are written. -/
def readLong (quote : Char) (cs : List Char) : Option (List Char × Shorter cs) :=
  match readLongEnd quote cs with
  | some done => some done
  | none =>
    match readLineEnd cs with
    | some next =>
      (readLong quote next.1).map fun (chars, final) =>
        (lineBreakOf cs ++ chars, next.transShorter final)
    | none =>
      match cs with
      | [] => none
      | c :: rest =>
        if c = '\\' ∧ quote = '"' then
          match skipContinuation rest, readEscape rest with
          | some next, _ =>
            (readLong quote next.1).map fun (chars, final) =>
              (chars, (Shorter.tail c rest).transShorter (next.transShorter final))
          | none, some (char, next) =>
            (readLong quote next.1).map fun (chars, final) =>
              (char :: chars, (Shorter.tail c rest).transShorter (next.transShorter final))
          | none, none => none
        else if isPrintable c then
          (readLong quote rest).map fun (chars, final) =>
            (c :: chars, (Shorter.tail c rest).transShorter final)
        else none
termination_by cs.length
decreasing_by
  · exact next.2
  · exact ((Shorter.tail c rest).transShorter next).2
  · exact ((Shorter.tail c rest).transShorter next).2
  · exact Nat.lt_succ_self _

/-- Reads a string of several lines from after its opening quotes; a line break right there does not
belong to it. -/
def readLongBody (quote : Char) (cs : List Char) : Option (List Char × Shorter cs) :=
  match readLineEnd cs with
  | some next => (readLong quote next.1).map fun (chars, final) => (chars, next.transShorter final)
  | none => readLong quote cs

/-- Reads a string of any kind. -/
def readString (cs : List Char) : Option (String × Shorter cs) :=
  match cs with
  | '"' :: '"' :: '"' :: rest =>
    (readLongBody '"' rest).map fun (chars, final) =>
      (String.ofList chars, ⟨final.1, by have := final.2; simp; omega⟩)
  | '\'' :: '\'' :: '\'' :: rest =>
    (readLongBody '\'' rest).map fun (chars, final) =>
      (String.ofList chars, ⟨final.1, by have := final.2; simp; omega⟩)
  | '"' :: rest =>
    (readBasic rest).map fun (chars, final) =>
      (String.ofList chars, (Shorter.tail _ rest).transShorter final)
  | '\'' :: rest =>
    (readLiteral rest).map fun (chars, final) =>
      (String.ofList chars, (Shorter.tail _ rest).transShorter final)
  | _ => none

end ColumnQuery.Toml
