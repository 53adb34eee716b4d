import ColumnQuery.Proofs.Lexing.Tokens
import Mathlib.Data.List.Chain

/-! The text of a phrase is read as exactly the tokens of the phrase, when of two neighbours one is
always a space or a separating mark. This is a property of the tokens alone: whatever names and
strings stand in the phrase, no character of them is read as anything else. -/
namespace ColumnQuery.Lexing
open Sql Text

/-- The tokens that keep their neighbours apart. -/
def isSeparator : Token → Bool
  | .space => true
  | .mark .comma => true
  | .mark .star => true
  | .mark .openParen => true
  | .mark .closeParen => true
  | _ => false

@[simp] theorem separators : isSeparator .space = true ∧ isSeparator (.mark .comma) = true ∧
    isSeparator (.mark .star) = true ∧ isSeparator (.mark .openParen) = true ∧
      isSeparator (.mark .closeParen) = true :=
  ⟨rfl, rfl, rfl, rfl, rfl⟩

/-- Of two neighbours one is a separator. -/
def Separate (phrase : Phrase) : Prop :=
  phrase.IsChain fun first second => isSeparator first = true ∨ isSeparator second = true

/-- A name that is read as a function: it is one word in upper case, and no keyword or constant. -/
structure IsFunction (name : String) : Prop where
  word : isWord (uppercase name).toList = true
  meaning : ofWord (uppercase name) = .function (uppercase name)
  single : uppercase name ≠ "GROUP" ∧ uppercase name ≠ "ORDER"

/-- A phrase whose text can be taken apart again. -/
structure Readable (phrase : Phrase) : Prop where
  separate : Separate phrase
  functions : ∀ name, .function name ∈ phrase → IsFunction name

/-- A word or a number ends where a separator follows. -/
theorem separator_ends {token : Token} (separator : isSeparator token = true) (rest : List Char) :
    Ended (token.text.toList ++ rest) := by
  intro c head
  match token with
  | .space | .mark .comma | .mark .star | .mark .openParen | .mark .closeParen =>
    cases head
    decide

/-- A token is read as its pieces when it is a separator itself or nothing goes on with it. -/
theorem begins_token {token : Token} {rest : List Char}
    (apart : isSeparator token = true ∨ Ended rest)
    (functions : ∀ name, token = .function name → IsFunction name) :
    Begins token.text.toList (piecesOf token) rest := by
  have ended (solid : isSeparator token = false) : Ended rest :=
    apart.resolve_left (by simp [solid])
  cases token with
  | keyword word => exact begins_keyword word (ended rfl)
  | mark sign =>
    apply begins_mark
    rintro (rfl | rfl)
    · exact boundary_is_no_quote (ended rfl) (by decide)
    · exact boundary_is_no_quote (ended rfl) (by decide)
  | space => exact begins_space
  | identifier name => exact begins_identifier name (ended rfl)
  | literal value => exact begins_literal value (ended rfl)
  | function name => exact begins_text_of_word (functions name rfl).word (ended rfl)

/-- The pieces of a phrase are those of its tokens. -/
theorem readPieces_text {phrase : Phrase} (readable : Readable phrase) :
    readPieces (Phrase.text phrase).toList = some (phrase.flatMap piecesOf) := by
  obtain ⟨separate, functions⟩ := readable
  induction phrase with
  | nil => rw [Phrase.text, String.toList_empty, readPieces, List.flatMap_nil]
  | cons token rest ih =>
    have following := ih separate.tail fun name member => functions name (.tail _ member)
    have apart : isSeparator token = true ∨ Ended (Phrase.text rest).toList := by
      cases rest with
      | nil => exact .inr (by simp [Ended, Phrase.text])
      | cons next rest =>
        refine (List.isChain_cons_cons.mp separate).1.imp_right fun separator => ?_
        rw [Phrase.text, String.toList_append]
        exact separator_ends separator _
    have begun := begins_token apart fun name same => functions name (same ▸ .head _)
    rw [Phrase.text, String.toList_append, begun, following]
    rfl

theorem classify_word {text : String} (single : text ≠ "GROUP" ∧ text ≠ "ORDER")
    (rest : List Piece) : classify (.word text :: rest) = ofWord text :: classify rest := by
  rw [classify]
  · exact fun _ _ same => single.1 same
  · exact fun _ _ same => single.2 same

theorem classify_literal (value : Literal) (rest : List Piece) :
    classify (piecesOfLiteral value :: rest) = ofLiteral value :: classify rest := by
  cases value with
  | null => exact classify_word (by decide) rest
  | real value =>
    cases finite : value.isFinite with
    | false =>
      simp only [piecesOfLiteral, ofLiteral, finite, Bool.false_eq_true, ↓reduceIte]
      exact classify_word (by decide) rest
    | true => simp only [piecesOfLiteral, ofLiteral, finite, ↓reduceIte, classify]
  | boolean value => cases value <;> exact classify_word (by decide) rest
  | _ => rfl

/-- The pieces of a token are put together to that token. -/
theorem classify_token {token : Token} (functions : ∀ name, token = .function name → IsFunction name)
    (rest : List Piece) :
    classify (piecesOf token ++ rest) = (ofToken token).toList ++ classify rest := by
  cases token with
  | keyword word =>
    cases word with
    | groupBy => rfl
    | orderBy => rfl
    | _ => exact classify_word (by decide) rest
  | mark sign => rfl
  | space => rfl
  | identifier name => rfl
  | literal value => exact classify_literal value rest
  | function name =>
    obtain ⟨-, meaning, single⟩ := functions name rfl
    exact (classify_word single rest).trans (congrArg (· :: classify rest) meaning)

/-- Whatever names and strings a readable phrase holds, its text is read as its own tokens. -/
theorem lex_text {phrase : Phrase} (readable : Readable phrase) :
    lex (Phrase.text phrase) = some (phrase.filterMap ofToken) := by
  have meaning : classify (phrase.flatMap piecesOf) = phrase.filterMap ofToken := by
    have functions := readable.functions
    clear readable
    induction phrase with
    | nil => rfl
    | cons token rest ih =>
      rw [List.flatMap_cons, classify_token fun name same => functions name (same ▸ .head _),
        ih fun name member => functions name (.tail _ member), List.filterMap_cons]
      cases ofToken token <;> rfl
  rw [lex, readPieces_text readable, Option.map_some, meaning]

/-- Readable phrases with one text are read as the same tokens. -/
theorem lexemes_of_text {first second : Phrase} (left : Readable first) (right : Readable second)
    (same : Phrase.text first = Phrase.text second) :
    first.filterMap ofToken = second.filterMap ofToken := by
  have read := lex_text left
  rw [same, lex_text right] at read
  exact (Option.some.inj read).symm

/-! ## Where phrases are put together -/

section Joints

variable {separator token : Token} {first second phrase : Phrase}

@[simp] theorem readable_nil : Readable [] :=
  ⟨.nil, by simp⟩

@[simp] theorem readable_single (functions : ∀ name, token = .function name → IsFunction name) :
    Readable [token] :=
  ⟨.singleton _, fun name member => functions name (List.mem_singleton.mp member).symm⟩

/-- A separator is no function, so that only its neighbours matter. -/
theorem separator_is_plain (apart : isSeparator separator = true) (name : String) :
    separator ≠ .function name := by
  rintro rfl
  cases apart

@[simp] theorem readable_separator_cons (apart : isSeparator separator = true) :
    Readable (separator :: phrase) ↔ Readable phrase := by
  constructor
  · rintro ⟨separate, functions⟩
    exact ⟨separate.tail, fun name member => functions name (.tail _ member)⟩
  · rintro ⟨separate, functions⟩
    refine ⟨List.isChain_cons.mpr ⟨fun _ _ => .inl apart, separate⟩, fun name member => ?_⟩
    rcases List.mem_cons.mp member with same | member
    · exact absurd same.symm (separator_is_plain apart name)
    · exact functions name member

/-- Two phrases with a separator between them are readable exactly when both are. -/
@[simp] theorem readable_between (apart : isSeparator separator = true) :
    Readable (first ++ separator :: second) ↔ Readable first ∧ Readable second := by
  constructor
  · rintro ⟨separate, functions⟩
    obtain ⟨left, right, -⟩ := List.isChain_append.mp separate
    exact ⟨⟨left, fun name member => functions name (List.mem_append_left _ member)⟩,
      ⟨right.tail, fun name member => functions name (List.mem_append_right _ (.tail _ member))⟩⟩
  · rintro ⟨left, right⟩
    obtain ⟨separate, functions⟩ := (readable_separator_cons apart).mpr right
    refine ⟨List.isChain_append.mpr ⟨left.separate, separate, fun last _ next head => ?_⟩,
      fun name member => ?_⟩
    · cases head
      exact .inr apart
    · rcases List.mem_append.mp member with member | member
      · exact left.functions name member
      · exact functions name member

@[simp] theorem readable_token_cons (apart : isSeparator separator = true)
    (functions : ∀ name, token = .function name → IsFunction name) :
    Readable (token :: separator :: phrase) ↔ Readable phrase :=
  (@readable_between _ [token] phrase apart).trans
    ⟨And.right, fun right => ⟨readable_single functions, right⟩⟩

end Joints

end ColumnQuery.Lexing
