import ColumnQuery.Text.Cased
import ColumnQuery.Text.CaseMap

/-! Lower and upper case of whole texts by the full Unicode rules. A character may become several,
and the capital sigma is the one letter whose lower case depends on its neighbours. -/
namespace ColumnQuery.Text

/-- The code point that one of the runs maps a code point to, if one holds it. -/
def shifted (runs : List CaseRun) (code : Nat) : Option Nat :=
  (runs.find? fun run => run.first ≤ code && code ≤ run.last && (code - run.first) % run.step == 0)
    |>.map fun run => ((code : Int) + run.shift).toNat

/-- A character beyond ASCII through a table of runs and a table of exceptions. -/
def mapped (runs : List CaseRun) (special : List (Nat × List Nat)) (c : Char) : List Char :=
  match special.lookup c.toNat with
  | some codes => codes.map Char.ofNat
  | none => [((shifted runs c.toNat).map Char.ofNat).getD c]

/-- The lower case of one character away from any context. -/
def lowerChar (c : Char) : List Char :=
  if c.toNat < 0x80 then [c.toLower] else mapped lowerRuns lowerSpecial c

/-- The upper case of one character. -/
def upperChar (c : Char) : List Char :=
  if c.toNat < 0x80 then [c.toUpper] else mapped upperRuns upperSpecial c

/-- Whether a word goes on here: the first character that case is not read through has case. -/
def casedAhead (cs : List Char) : Bool :=
  match cs.dropWhile caseIgnorable.contains with
  | c :: _ => cased.contains c
  | [] => false

/-- The lower case of a text that follows the characters `before`, which are given nearest first.
A capital sigma that ends a word is final. -/
def lowerAfter (before : List Char) : List Char → List Char
  | [] => []
  | c :: rest =>
    (if c = 'Σ' then
        if casedAhead before && !casedAhead rest then ['ς'] else ['σ']
      else lowerChar c) ++ lowerAfter (c :: before) rest

/-- The lower case of a text. -/
def lowercase (s : String) : String :=
  String.ofList (lowerAfter [] s.toList)

/-- The upper case of a text. -/
def uppercase (s : String) : String :=
  String.ofList (s.toList.flatMap upperChar)

end ColumnQuery.Text
