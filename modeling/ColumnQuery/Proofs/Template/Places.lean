import ColumnQuery.Proofs.Template.Lexemes

/-! The places of lexemes. A place counts the bytes before a lexeme, so a text can be cut there. What
stands before the cut is read by itself as it is read in the whole text, and whatever is put behind the
cut in place of the rest is read from there on, as long as it begins like the rest or is empty: no
lexeme looks further than one character beyond its end. -/
namespace ColumnQuery
open Text Template

/-! ## Bytes -/

theorem byteLength_append (first second : List Char) :
    byteLength (first ++ second) = byteLength first + byteLength second := by
  induction first with
  | nil => simp [byteLength]
  | cons c rest ih => rw [List.cons_append, byteLength, byteLength, ih, Nat.add_assoc]

theorem byteLength_pos {cs : List Char} (nonempty : cs ≠ []) : 0 < byteLength cs := by
  cases cs with
  | nil => exact absurd rfl nonempty
  | cons c rest =>
    have size := c.utf8Size_pos
    rw [byteLength]
    omega

theorem byteLength_ofList (cs : List Char) : (String.ofList cs).utf8ByteSize = byteLength cs := by
  induction cs with
  | nil => rfl
  | cons c rest ih =>
    rw [← List.singleton_append, String.ofList_append, String.utf8ByteSize_append, ih]
    simp [byteLength]

/-! ## The end of a reference -/

/-- The double brace that ends a reference is found whatever follows it. -/
theorem splitAtClose_before {cs inner : List Char} {after : Remainder cs}
    (split : splitAtClose cs = some (inner, after)) (other : List Char) :
    ∃ rest : Remainder (inner ++ closeReference ++ other),
      splitAtClose (inner ++ closeReference ++ other) = some (inner, rest) ∧ rest.1 = other := by
  fun_induction splitAtClose cs generalizing inner with
  | case1 => cases split
  | case2 rest =>
    cases split
    exact ⟨_, rfl, rfl⟩
  | case3 c cs apart ih =>
    obtain ⟨⟨further, remaining⟩, found, same⟩ := Option.map_eq_some_iff.mp split
    cases same
    obtain ⟨rest, again, remains⟩ := ih found
    have whole := append_of_splitAtClose found
    have stillApart : ∀ tail, c = '\x7d' →
        further ++ closeReference ++ other = '\x7d' :: tail → False := by
      -- a second brace right behind this one would have ended the reference here
      intro tail brace begins
      cases further with
      | nil => exact apart _ brace whole
      | cons d further =>
        obtain rfl : d = '\x7d' := (List.cons.inj begins).1
        exact apart _ brace whole
    have skips := splitAtClose_skips stillApart
    rw [again] at skips
    exact ⟨_, skips, remains⟩

/-! ## Cutting -/

theorem Lexeme.nonempty_of_written {lexeme : Lexeme} {chars : List Char}
    (written : lexeme.Written chars) : chars ≠ [] := by
  cases written <;> simp [openReference, openClause, closeClause]

namespace Lexed
open Lexeme

/-- Lexemes in front of others. -/
def prepend (first : List PlacedLexeme) (rest : Lexed) : Lexed :=
  { rest with lexemes := first ++ rest.lexemes }

theorem prepend_cons (placed : PlacedLexeme) (first : List PlacedLexeme) (rest : Lexed) :
    prepend (placed :: first) rest = (prepend first rest).cons placed :=
  rfl

/-- Whether a text can stand in place of another without being told from it by its beginning. -/
def Replaces (other rest : List Char) : Prop :=
  ∀ c ∈ other.head?, c ∈ rest.head?

/-- The first lexeme of a text is where the text begins, in writing, and it is read as well when
something else stands behind it. -/
theorem first_of_read {offset : Nat} {cs : List Char} {placed : PlacedLexeme}
    {more : List PlacedLexeme} {fault : Option TemplateError}
    (read : ofChars offset cs = ⟨placed :: more, fault⟩) : ∃ chars rest, cs = chars ++ rest ∧
      placed.offset = offset ∧ placed.lexeme.Written chars ∧ ∀ other, Replaces other rest →
        ofChars offset (chars ++ other) =
          (ofChars (offset + byteLength chars) other).cons placed := by
  fun_induction ofChars offset cs with
  | case1 => cases read
  | case2 offset rest unterminated => cases read
  | case3 offset rest inner after split fault unnamed => cases read
  | case4 offset rest inner after split name found =>
    cases read
    obtain ⟨-, before, behind, whole, blankBefore, blankAfter⟩ := referenceName_ok_iff.mp found
    refine ⟨openReference ++ inner ++ closeReference, after.1, ?_, rfl, ?_, ?_⟩
    · simpa [openReference] using append_of_splitAtClose split
    · rw [whole]
      simpa using Lexeme.Written.reference before name behind blankBefore blankAfter
    · intro other _
      obtain ⟨rest, again, same⟩ := splitAtClose_before split other
      have opened : openReference ++ inner ++ closeReference ++ other =
          '\x7b' :: '\x7b' :: (inner ++ closeReference ++ other) := by
        simp [openReference]
      have size : byteLength (openReference ++ inner ++ closeReference) = byteLength inner + 4 := by
        simp only [byteLength_append, openReference, closeReference, byteLength]
        have brace : '\x7b'.utf8Size = 1 ∧ '\x7d'.utf8Size = 1 := by decide
        omega
      rw [opened, ofChars, again, size]
      simp only [found, same, Nat.add_assoc]
  | case5 offset rest =>
    cases read
    refine ⟨openClause, rest, rfl, rfl, .opening, fun other _ => ?_⟩
    rw [openClause, List.cons_append, List.cons_append, ofChars]
    rfl
  | case6 offset rest =>
    cases read
    refine ⟨closeClause, rest, rfl, rfl, .closing, fun other _ => ?_⟩
    rw [closeClause, List.cons_append, List.cons_append, ofChars]
    rfl
  | case7 offset c rest noReference noOpening noClosing =>
    cases read
    refine ⟨[c], rest, rfl, rfl, .character c, fun other replaces => ?_⟩
    apply ofChars_character
    intro d begins special same
    subst same
    obtain ⟨tail, rfl⟩ := List.head?_eq_some_iff.mp (replaces d begins)
    simp only [List.mem_cons, List.not_mem_nil, or_false] at special
    rcases special with rfl | rfl | rfl
    · exact noReference tail rfl rfl
    · exact noOpening tail rfl rfl
    · exact noClosing tail rfl rfl

/-- A text can be cut before any of its lexemes, and at the end of them all. -/
theorem cut_of_read {offset : Nat} {cs : List Char} {first second : List PlacedLexeme}
    {fault : Option TemplateError} (read : ofChars offset cs = ⟨first ++ second, fault⟩) :
    ∃ before rest, cs = before ++ rest ∧
      ofChars (offset + byteLength before) rest = ⟨second, fault⟩ ∧ ∀ other, Replaces other rest →
        ofChars offset (before ++ other) =
          prepend first (ofChars (offset + byteLength before) other) := by
  induction first generalizing offset cs with
  | nil => exact ⟨[], cs, rfl, read, fun other _ => rfl⟩
  | cons placed first ih =>
    obtain ⟨chars, rest, rfl, -, -, goesOn⟩ := first_of_read read
    have here := goesOn rest fun c begins => begins
    rw [here] at read
    obtain ⟨later, tail, same⟩ := eq_of_cons read
    cases same
    obtain ⟨after, further, rfl, reached, keeps⟩ := ih tail
    refine ⟨chars ++ after, further, (List.append_assoc ..).symm, ?_, ?_⟩
    · rw [byteLength_append, ← Nat.add_assoc]
      exact reached
    · intro other replaces
      have begins : Replaces (after ++ other) (after ++ further) := by
        cases after with
        | nil => exact replaces
        | cons c after => exact fun d first => first
      rw [List.append_assoc, goesOn _ begins, keeps other replaces, byteLength_append,
        ← Nat.add_assoc, prepend_cons]

/-- The places of lexemes increase: every lexeme takes up a byte at least. -/
theorem places_increase {offset : Nat} {cs : List Char} {placed : List PlacedLexeme}
    {fault : Option TemplateError} (read : ofChars offset cs = ⟨placed, fault⟩) :
    (∀ lexeme ∈ placed, offset ≤ lexeme.offset) ∧
      placed.Pairwise fun lexeme later => lexeme.offset < later.offset := by
  induction placed generalizing offset cs with
  | nil => exact ⟨by simp, .nil⟩
  | cons lexeme more ih =>
    obtain ⟨chars, rest, rfl, here, written, goesOn⟩ := first_of_read read
    rw [goesOn rest fun c begins => begins] at read
    obtain ⟨later, tail, same⟩ := eq_of_cons read
    cases same
    obtain ⟨beyond, increase⟩ := ih tail
    have taken : 0 < byteLength chars := byteLength_pos (nonempty_of_written written)
    constructor
    · refine List.forall_mem_cons.mpr ⟨Nat.le_of_eq here.symm, fun later member => ?_⟩
      have := beyond later member
      omega
    · refine .cons (fun later member => ?_) increase
      have := beyond later member
      omega

/-! ## Faults -/

/-- A fault at the start of a text is about the reference that begins there. What follows can mend it
only by ending the reference. -/
theorem fault_of_read {offset : Nat} {cs : List Char} {fault : TemplateError}
    (read : ofChars offset cs = ⟨[], some fault⟩) : openReference <+: cs ∧
      (fault = .unterminatedReference offset ∨
        (fault = .emptyReference offset ∨ ∃ name, fault = .invalidName name offset) ∧
          ∀ suffix, ofChars offset (cs ++ suffix) = ⟨[], some fault⟩) := by
  fun_induction ofChars offset cs with
  | case1 => cases read
  | case2 offset rest unterminated =>
    cases read
    exact ⟨⟨rest, rfl⟩, .inl rfl⟩
  | case3 offset rest inner after split cause unnamed =>
    cases read
    refine ⟨⟨rest, rfl⟩, .inr ⟨?_, fun suffix => ?_⟩⟩
    · rw [referenceName] at unnamed
      split at unnamed
      · cases unnamed
        exact .inl rfl
      · split at unnamed
        · cases unnamed
        · cases unnamed
          exact .inr ⟨_, rfl⟩
    · obtain ⟨remaining, again, -⟩ := splitAtClose_before split (after.1 ++ suffix)
      have whole : rest ++ suffix = inner ++ closeReference ++ (after.1 ++ suffix) := by
        rw [← List.append_assoc, ← append_of_splitAtClose split]
      rw [List.cons_append, List.cons_append, whole, ofChars, again]
      simp only [unnamed]
  | case4 => cases read
  | case5 => cases read
  | case6 => cases read
  | case7 => cases read

end Lexed

end ColumnQuery
