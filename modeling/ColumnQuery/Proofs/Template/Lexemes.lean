import ColumnQuery.Proofs.Template.Canonical
import ColumnQuery.Proofs.Text.Strip
import Mathlib.Data.List.Chain

/-! The lexemes of a template text. A text is read as the lexemes that it writes, provided that no
character runs into the lexeme after it, and every list of lexemes that is read has this form. -/
namespace ColumnQuery
open Text Template

/-! ## Names in references -/

theorem blank_is_no_name_char {c : Char} (blank : isBlank c = true) : isNameChar c = false := by
  have each : ∀ range ∈ Text.blank.ranges, ∀ i < range.2 + 1 - range.1,
      isNameChar (Char.ofNat (range.1 + i)) = false := by
    decide +kernel
  obtain ⟨range, member, within⟩ := List.any_eq_true.mp blank
  simp only [Bool.and_eq_true, decide_eq_true_eq] at within
  have found := each range member (c.toNat - range.1) (by omega)
  rwa [Nat.add_sub_cancel' within.1, Char.ofNat_toNat] at found

theorem name_char_is_not_blank {c : Char} (named : isNameChar c = true) : isBlank c = false := by
  cases blank : isBlank c with
  | false => rfl
  | true =>
    rw [blank_is_no_name_char blank] at named
    cases named

/-- A name is what is left when the blanks around it are dropped. -/
theorem strip_name {name : String} {before after : List Char} (named : IsName name)
    (blankBefore : ∀ c ∈ before, isBlank c = true) (blankAfter : ∀ c ∈ after, isBlank c = true) :
    strip isBlank (before ++ name.toList ++ after) = name.toList :=
  strip_surrounded blankBefore
    (isBare_of_all fun c member => name_char_is_not_blank ((isName_iff.mp named).2 c member))
    blankAfter

/-- A name is read from a reference exactly when it stands there between blanks. -/
theorem referenceName_ok_iff {offset : Nat} {inner : List Char} {name : String} :
    referenceName offset inner = .ok name ↔ IsName name ∧ ∃ before after,
      inner = before ++ name.toList ++ after ∧ (∀ c ∈ before, isBlank c = true) ∧
        ∀ c ∈ after, isBlank c = true := by
  constructor
  · intro read
    rw [referenceName] at read
    split at read
    · cases read
    · next present =>
      split at read
      · next named =>
        cases read
        obtain ⟨before, after, whole, blankBefore, blankAfter⟩ := strip_splits isBlank inner
        refine ⟨isName_iff.mpr ⟨?_, by simpa using named⟩, before, after, ?_, blankBefore,
          blankAfter⟩
        · intro empty
          rw [← String.ofList_nil, String.ofList_inj] at empty
          simp [empty] at present
        · rw [String.toList_ofList]
          exact whole
      · cases read
  · rintro ⟨named, before, after, rfl, blankBefore, blankAfter⟩
    have nonempty : name.toList ≠ [] := by simpa using named.1
    have every : name.toList.all isNameChar = true := by
      simpa using (isName_iff.mp named).2
    simp only [referenceName, strip_name named blankBefore blankAfter]
    rw [if_neg (by simpa using nonempty), if_pos every, String.ofList_toList]

/-! ## The end of a reference -/

theorem splitAtClose_skips {c : Char} {cs : List Char}
    (apart : ∀ rest, c = '\x7d' → cs = '\x7d' :: rest → False) :
    splitAtClose (c :: cs) = (splitAtClose cs).map fun (inner, after) =>
      (c :: inner, (Shorter.ofTail after).toRemainder) := by
  rw [splitAtClose]
  exact apart

/-- A reference ends at its first double brace. -/
theorem splitAtClose_append {inner : List Char} (after : List Char)
    (other : ∀ c ∈ inner, c ≠ '\x7d') :
    ∃ rest : Remainder (inner ++ closeReference ++ after),
      splitAtClose (inner ++ closeReference ++ after) = some (inner, rest) ∧ rest.1 = after := by
  induction inner with
  | nil => exact ⟨_, rfl, rfl⟩
  | cons c inner ih =>
    obtain ⟨rest, split, same⟩ := ih fun d member => other d (.tail c member)
    have skips : splitAtClose (c :: (inner ++ closeReference ++ after)) = _ :=
      splitAtClose_skips fun _ brace _ => other c (.head _) brace
    rw [split] at skips
    exact ⟨_, skips, same⟩

/-- What is cut at the closing brackets is put together again with them. -/
theorem append_of_splitAtClose {cs inner : List Char} {after : Remainder cs}
    (split : splitAtClose cs = some (inner, after)) : cs = inner ++ closeReference ++ after.1 := by
  fun_induction splitAtClose cs generalizing inner with
  | case1 => cases split
  | case2 rest =>
    cases split
    rfl
  | case3 c rest other ih =>
    obtain ⟨⟨further, remaining⟩, found, same⟩ := Option.map_eq_some_iff.mp split
    cases same
    exact congrArg (c :: ·) (ih found)

/-! ## Lexemes in writing -/

namespace Lexeme

/-- A lexeme and a way to write it. -/
inductive Written : Lexeme → List Char → Prop
  | character (c : Char) : Written (.character c) [c]
  | reference (before : List Char) (name : String) (after : List Char)
      (blankBefore : ∀ c ∈ before, isBlank c = true) (blankAfter : ∀ c ∈ after, isBlank c = true) :
      Written (.reference name) (openReference ++ before ++ name.toList ++ after ++ closeReference)
  | opening : Written .opening openClause
  | closing : Written .closing closeClause

/-- Lexemes written one after the other. -/
inductive AllWritten : List Lexeme → List Char → Prop
  | nil : AllWritten [] []
  | cons {lexeme : Lexeme} {rest : List Lexeme} {chars cs : List Char}
      (first : lexeme.Written chars) (later : AllWritten rest cs) :
      AllWritten (lexeme :: rest) (chars ++ cs)

/-- The character that a lexeme begins with. -/
def firstChar : Lexeme → Char
  | .character c => c
  | .reference _ => '\x7b'
  | .opening => '['
  | .closing => ']'

/-- Whether a lexeme stays apart from the next: a brace or a bracket does not meet its like, with
which it would be read as a mark. -/
def StaysApart : Lexeme → Lexeme → Prop
  | .character c, next => c ∈ ['\x7b', '[', ']'] → next.firstChar ≠ c
  | .reference _, _ => True
  | .opening, _ => True
  | .closing, _ => True

/-- Whether every lexeme of a list stays apart from the next. -/
abbrev Separate (lexemes : List Lexeme) : Prop :=
  lexemes.IsChain StaysApart

/-- Whether the references in a list have names. -/
def AreNamed (lexemes : List Lexeme) : Prop :=
  ∀ name, .reference name ∈ lexemes → IsName name

theorem first_of_written {lexemes : List Lexeme} {cs : List Char} (written : AllWritten lexemes cs) :
    cs.head? = lexemes.head?.map firstChar := by
  cases written with
  | nil => rfl
  | cons first later => cases first <;> rfl

end Lexeme

open Lexeme

namespace Lexed

/-- A character that stays apart from what follows is read as itself. -/
theorem ofChars_character {offset : Nat} {c : Char} {cs : List Char}
    (apart : ∀ d ∈ cs.head?, c ∈ ['\x7b', '[', ']'] → d ≠ c) :
    ofChars offset (c :: cs) =
      .cons ⟨offset, .character c⟩ (ofChars (offset + c.utf8Size) cs) := by
  rw [ofChars]
  all_goals
    rintro rest rfl rfl
    exact apart _ rfl (by simp) rfl

theorem ofChars_reference {offset : Nat} {before after cs : List Char} {name : String}
    (named : IsName name) (blankBefore : ∀ c ∈ before, isBlank c = true)
    (blankAfter : ∀ c ∈ after, isBlank c = true) :
    ∃ next, ofChars offset (openReference ++ before ++ name.toList ++ after ++ closeReference ++ cs) =
      .cons ⟨offset, .reference name⟩ (ofChars next cs) := by
  have inside : ∀ c ∈ before ++ name.toList ++ after, c ≠ '\x7d' := by
    intro c member same
    rcases List.mem_append.mp member with member | member
    · rcases List.mem_append.mp member with member | member
      · exact absurd (blankBefore c member) (by rw [same]; decide)
      · exact absurd ((isName_iff.mp named).2 c member) (by rw [same]; decide +kernel)
    · exact absurd (blankAfter c member) (by rw [same]; decide)
  obtain ⟨rest, split, same⟩ := splitAtClose_append cs inside
  have read : referenceName offset (before ++ name.toList ++ after) = .ok name :=
    referenceName_ok_iff.mpr ⟨named, before, after, rfl, blankBefore, blankAfter⟩
  have whole : openReference ++ before ++ name.toList ++ after ++ closeReference ++ cs =
      '\x7b' :: '\x7b' :: (before ++ name.toList ++ after ++ closeReference ++ cs) := by
    simp [openReference]
  refine ⟨offset + byteLength (before ++ name.toList ++ after) + 4, ?_⟩
  rw [whole, ofChars, split]
  simp only [read, same]

/-- Lexemes that stay apart are read back from their writing. -/
theorem read_of_written {lexemes : List Lexeme} {cs : List Char} (written : AllWritten lexemes cs)
    (separate : Separate lexemes) (named : AreNamed lexemes) (offset : Nat) :
    ∃ placed, ofChars offset cs = ⟨placed, none⟩ ∧ placed.map (·.lexeme) = lexemes := by
  induction written generalizing offset with
  | nil => exact ⟨[], by rw [ofChars], rfl⟩
  | @cons lexeme rest chars cs first later ih =>
    obtain ⟨apart, separate⟩ := List.isChain_cons.mp separate
    have goesOn := ih separate fun name member => named name (.tail _ member)
    have step : ∃ next, ofChars offset (chars ++ cs) = .cons ⟨offset, lexeme⟩ (ofChars next cs) := by
      cases first with
      | character c =>
        refine ⟨_, ofChars_character ?_⟩
        intro d begins special
        change d ∈ cs.head? at begins
        rw [first_of_written later] at begins
        obtain ⟨next, follows, rfl⟩ := Option.map_eq_some_iff.mp begins
        exact apart next follows special
      | reference before name after blankBefore blankAfter =>
        exact ofChars_reference (named name (.head _)) blankBefore blankAfter
      | opening => exact ⟨_, by rw [openClause, List.cons_append, List.cons_append, ofChars]; rfl⟩
      | closing => exact ⟨_, by rw [closeClause, List.cons_append, List.cons_append, ofChars]; rfl⟩
    obtain ⟨next, step⟩ := step
    obtain ⟨placed, read, same⟩ := goesOn next
    exact ⟨⟨offset, lexeme⟩ :: placed, by rw [step, read]; rfl, by rw [List.map_cons, same]⟩

theorem eq_of_cons {first : PlacedLexeme} {rest : Lexed} {placed : List PlacedLexeme}
    {fault : Option TemplateError} (read : rest.cons first = ⟨placed, fault⟩) :
    ∃ later, rest = ⟨later, fault⟩ ∧ placed = first :: later := by
  cases rest with
  | mk later ended =>
    cases read
    exact ⟨later, rfl, rfl⟩

/-- What is read to the end is written so, and its lexemes stay apart. -/
theorem written_of_read {offset : Nat} {cs : List Char} {placed : List PlacedLexeme}
    (read : ofChars offset cs = ⟨placed, none⟩) :
    AllWritten (placed.map (·.lexeme)) cs ∧ Separate (placed.map (·.lexeme)) ∧
      AreNamed (placed.map (·.lexeme)) := by
  fun_induction ofChars offset cs generalizing placed with
  | case1 offset =>
    cases read
    exact ⟨.nil, .nil, by simp [AreNamed]⟩
  | case2 offset rest unterminated => cases read
  | case3 offset rest inner after split fault unnamed => cases read
  | case4 offset rest inner after split name found ih =>
    obtain ⟨later, goesOn, rfl⟩ := eq_of_cons read
    obtain ⟨written, separate, named⟩ := ih goesOn
    obtain ⟨isName, before, behind, rfl, blankBefore, blankAfter⟩ := referenceName_ok_iff.mp found
    refine ⟨?_, List.isChain_cons.mpr ⟨by simp [StaysApart], separate⟩, ?_⟩
    · rw [append_of_splitAtClose split]
      simpa [openReference] using AllWritten.cons (.reference _ name _ blankBefore blankAfter) written
    · intro other member
      rcases List.mem_cons.mp member with same | member
      · cases same
        exact isName
      · exact named other member
  | case5 offset rest ih =>
    obtain ⟨later, goesOn, rfl⟩ := eq_of_cons read
    obtain ⟨written, separate, named⟩ := ih goesOn
    exact ⟨.cons .opening written, List.isChain_cons.mpr ⟨by simp [StaysApart], separate⟩,
      by simpa [AreNamed] using named⟩
  | case6 offset rest ih =>
    obtain ⟨later, goesOn, rfl⟩ := eq_of_cons read
    obtain ⟨written, separate, named⟩ := ih goesOn
    exact ⟨.cons .closing written, List.isChain_cons.mpr ⟨by simp [StaysApart], separate⟩,
      by simpa [AreNamed] using named⟩
  | case7 offset c rest noReference noOpening noClosing ih =>
    obtain ⟨later, goesOn, rfl⟩ := eq_of_cons read
    obtain ⟨written, separate, named⟩ := ih goesOn
    refine ⟨.cons (.character c) written, List.isChain_cons.mpr ⟨?_, separate⟩,
      by simpa [AreNamed] using named⟩
    intro next follows special same
    have begins : rest.head? = some c := by
      rw [first_of_written written, Option.mem_def.mp follows, ← same]
      rfl
    obtain ⟨tail, rfl⟩ := List.head?_eq_some_iff.mp begins
    simp only [List.mem_cons, List.not_mem_nil, or_false] at special
    rcases special with rfl | rfl | rfl
    · exact noReference tail rfl rfl
    · exact noOpening tail rfl rfl
    · exact noClosing tail rfl rfl

end Lexed

end ColumnQuery
