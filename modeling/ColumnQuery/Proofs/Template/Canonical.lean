import ColumnQuery.Template.Lexeme
import Mathlib.Data.List.Infix

/-! Templates in writing, and the canonical form of a template: the one that writing and reading
leave as it is. A template is canonical when no two of its characters, written side by side, could
be taken for the mark of a reference or of an optional clause. -/
namespace ColumnQuery
open Text

namespace Template

def openReference : List Char := ['\x7b', '\x7b']

def closeReference : List Char := ['\x7d', '\x7d']

def openClause : List Char := ['[', '[']

def closeClause : List Char := [']', ']']

/-- A template and a way to write it. Blanks may stand around the name in a reference; all else has
one form. -/
inductive Written : List TemplatePart → List Char → Prop
  | nil : Written [] []
  | text {rest : List TemplatePart} {cs : List Char} (content : String) (later : Written rest cs) :
      Written (.text content :: rest) (content.toList ++ cs)
  | reference {rest : List TemplatePart} {cs : List Char} (before : List Char) (name : String)
      (after : List Char) (blankBefore : ∀ c ∈ before, isBlank c = true)
      (blankAfter : ∀ c ∈ after, isBlank c = true)
      (later : Written rest cs) :
      Written (.reference name :: rest)
        (openReference ++ before ++ name.toList ++ after ++ closeReference ++ cs)
  | optional {parts rest : List TemplatePart} {inner cs : List Char} (inside : Written parts inner)
      (later : Written rest cs) :
      Written (.optional parts :: rest) (openClause ++ inner ++ closeClause ++ cs)

mutual

/-- A part written without blanks around names. -/
def partChars : TemplatePart → List Char
  | .text content => content.toList
  | .reference name => openReference ++ name.toList ++ closeReference
  | .optional parts => openClause ++ chars parts ++ closeClause

/-- A template written without blanks around names. -/
def chars : List TemplatePart → List Char
  | [] => []
  | part :: rest => partChars part ++ chars rest

end

/-- A template as text. -/
def print (template : Template) : String :=
  String.ofList (chars template)

/-- A name that a parameter can have. -/
def IsName (name : String) : Prop :=
  name ≠ "" ∧ ∀ c ∈ name.toList, isAlphanumeric c = true ∨ c ∈ ['_', '-', '.']

/-- Whether a part may stand right before another. Texts are not split, and a text does not end in
the character that the mark of the next part is made of. -/
def MayPrecede : TemplatePart → TemplatePart → Prop
  | .text _, .text _ => False
  | .text content, .reference _ => content.toList.getLast? ≠ some '\x7b'
  | .text content, .optional _ => content.toList.getLast? ≠ some '['
  | .reference _, _ => True
  | .optional _, _ => True

/-- Whether a part may stand right before the end of the clause that it is in. -/
def MayClose : TemplatePart → Prop
  | .text content => content.toList.getLast? ≠ some ']'
  | .reference _ => True
  | .optional _ => True

mutual

/-- A text is not empty and holds no mark, a reference has a name, and a clause is canonical up to
its end. -/
def IsCanonicalPart : TemplatePart → Prop
  | .text content => content ≠ "" ∧
      ∀ mark ∈ [openReference, openClause, closeClause], ¬ mark <:+: content.toList
  | .reference name => IsName name
  | .optional parts => IsCanonical parts ∧ ∀ last ∈ parts.getLast?, MayClose last

/-- Every part is canonical and may stand before the next. -/
def IsCanonical : List TemplatePart → Prop
  | [] => True
  | part :: rest =>
    IsCanonicalPart part ∧ (∀ next ∈ rest.head?, MayPrecede part next) ∧ IsCanonical rest

end

theorem isName_iff {name : String} :
    IsName name ↔ name ≠ "" ∧ ∀ c ∈ name.toList, isNameChar c = true := by
  simp [IsName, isNameChar, or_assoc]

/-! ## Being canonical can be decided -/

instance : DecidablePred IsName := fun name =>
  decidable_of_iff (name ≠ "" ∧ name.toList.all isNameChar = true) (by simp [isName_iff])

instance decidableMayPrecede : (part next : TemplatePart) → Decidable (MayPrecede part next)
  | .text _, .text _ => .isFalse id
  | .text content, .reference _ =>
    inferInstanceAs (Decidable (content.toList.getLast? ≠ some '\x7b'))
  | .text content, .optional _ => inferInstanceAs (Decidable (content.toList.getLast? ≠ some '['))
  | .reference _, _ => .isTrue trivial
  | .optional _, _ => .isTrue trivial

instance decidableMayClose : (part : TemplatePart) → Decidable (MayClose part)
  | .text content => inferInstanceAs (Decidable (content.toList.getLast? ≠ some ']'))
  | .reference _ => .isTrue trivial
  | .optional _ => .isTrue trivial

mutual

def decideCanonicalPart : (part : TemplatePart) → Decidable (IsCanonicalPart part)
  | .text content => inferInstanceAs (Decidable (content ≠ "" ∧
      ∀ mark ∈ [openReference, openClause, closeClause], ¬ mark <:+: content.toList))
  | .reference name => inferInstanceAs (Decidable (IsName name))
  | .optional parts =>
    have := decideCanonical parts
    inferInstanceAs (Decidable (IsCanonical parts ∧ ∀ last ∈ parts.getLast?, MayClose last))

def decideCanonical : (parts : List TemplatePart) → Decidable (IsCanonical parts)
  | [] => .isTrue trivial
  | part :: rest =>
    have := decideCanonicalPart part
    have := decideCanonical rest
    inferInstanceAs (Decidable (IsCanonicalPart part ∧
      (∀ next ∈ rest.head?, MayPrecede part next) ∧ IsCanonical rest))

end

instance : DecidablePred IsCanonical :=
  decideCanonical

/-- What is printed is a way to write the template. -/
theorem written_chars (template : List TemplatePart) : Written template (chars template) := by
  cases template with
  | nil => exact .nil
  | cons part rest =>
    have later := written_chars rest
    cases part with
    | text content => exact .text content later
    | reference name =>
      simpa [chars, partChars] using
        Written.reference [] name [] (by simp) (by simp) later
    | optional parts => exact .optional (written_chars parts) later

end Template

end ColumnQuery
