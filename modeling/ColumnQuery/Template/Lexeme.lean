import ColumnQuery.Template.Basic
import ColumnQuery.Text.Alphanumeric
import ColumnQuery.Text.Basic
import ColumnQuery.Text.Remainder

/-! The first step of reading a template: its text as a list of lexemes with their places. The list
ends early where a reference is faulty. -/
namespace ColumnQuery
open Text

/-- A piece of template text that is read as a whole. -/
inductive Lexeme
  | character (c : Char)
  | reference (name : String)
  | opening
  | closing
deriving DecidableEq

/-- A lexeme and the number of bytes before it. -/
structure PlacedLexeme where
  offset : Nat
  lexeme : Lexeme
deriving DecidableEq

/-- The lexemes of a text, up to its end or up to the first faulty reference. -/
structure Lexed where
  lexemes : List PlacedLexeme
  fault : Option TemplateError
deriving DecidableEq

/-- A lexeme in front of others. -/
def Lexed.cons (first : PlacedLexeme) (rest : Lexed) : Lexed :=
  { rest with lexemes := first :: rest.lexemes }

/-- The characters that parameter names are made of. -/
def isNameChar (c : Char) : Bool :=
  isAlphanumeric c || c == '_' || c == '-' || c == '.'

/-- The number of bytes that a text takes. -/
def byteLength : List Char → Nat
  | [] => 0
  | c :: rest => c.utf8Size + byteLength rest

/-- Splits a text at its first double brace: what stands before it and what follows it. -/
def splitAtClose (cs : List Char) : Option (List Char × Remainder cs) :=
  match cs with
  | [] => none
  | '\x7d' :: '\x7d' :: rest => some ([], ⟨rest, by simp; omega⟩)
  | c :: rest =>
    (splitAtClose rest).map fun (inner, after) =>
      (c :: inner, (Shorter.ofTail after).toRemainder)

/-- The name that stands in a reference, which may have blanks around it. -/
def referenceName (offset : Nat) (inner : List Char) : Except TemplateError String :=
  let name := strip isBlank inner
  if name.isEmpty then .error (.emptyReference offset)
  else if name.all isNameChar then .ok (String.ofList name)
  else .error (.invalidName (String.ofList name) offset)

/-- The lexemes of a text that follows so many bytes. -/
def Lexed.ofChars (offset : Nat) (cs : List Char) : Lexed :=
  match cs with
  | [] => ⟨[], none⟩
  | '\x7b' :: '\x7b' :: rest =>
    match splitAtClose rest with
    | none => ⟨[], some (.unterminatedReference offset)⟩
    | some (inner, after) =>
      match referenceName offset inner with
      | .error fault => ⟨[], some fault⟩
      | .ok name => .cons ⟨offset, .reference name⟩ (ofChars (offset + byteLength inner + 4) after.1)
  | '[' :: '[' :: rest => .cons ⟨offset, .opening⟩ (ofChars (offset + 2) rest)
  | ']' :: ']' :: rest => .cons ⟨offset, .closing⟩ (ofChars (offset + 2) rest)
  | c :: rest => .cons ⟨offset, .character c⟩ (ofChars (offset + c.utf8Size) rest)
termination_by cs.length
decreasing_by
  · have := after.2
    simp
    omega
  · exact Nat.lt_succ_of_lt (Nat.lt_succ_self _)
  · exact Nat.lt_succ_of_lt (Nat.lt_succ_self _)
  · exact Nat.lt_succ_self _

/-- The lexemes of a text. -/
def Lexed.ofText (text : String) : Lexed :=
  ofChars 0 text.toList

end ColumnQuery
