import ColumnQuery.Proofs.Lexing.Lexer
import ColumnQuery.Proofs.Text.Strip

/-! Each token by itself is read as what it stands for, provided that what follows does not go on
with it. Between two tokens one of which is a space or a separating mark, nothing does: neither
quotes nor digits nor letters meet there. -/
namespace ColumnQuery.Lexing
open Sql Text

/-- What a literal is found to be. An infinity or a NaN is found to be absent, and dates, times and
identifiers of 128 bits are strings. -/
def ofLiteral : Literal → Lexeme
  | .null => .null
  | .text value => .string value
  | .integer value => .number (toString value.toInt)
  | .real value => if value.isFinite then .number (Decimal.compact.text value) else .null
  | .boolean value => .boolean value
  | .uuid value => .string value.text
  | .temporal value => .string value.text

/-- What a token is found to be. Nothing is found where a space stands. -/
def ofToken : Token → Option Lexeme
  | .keyword word => some (.keyword word)
  | .mark sign => some (.mark sign)
  | .space => none
  | .identifier name => some (.identifier name)
  | .literal value => some (ofLiteral value)
  | .function name => some (.function (uppercase name))

/-- The pieces that a literal is read as. -/
def piecesOfLiteral (value : Literal) : Piece :=
  match ofLiteral value with
  | .null => .word nullText
  | .boolean value => .word (booleanText value)
  | lexeme => .whole lexeme

/-- The pieces that a token is read as. -/
def piecesOf : Token → List Piece
  | .keyword .groupBy => [.word "GROUP", .word "BY"]
  | .keyword .orderBy => [.word "ORDER", .word "BY"]
  | .keyword word => [.word word.text]
  | .mark sign => [.whole (.mark sign)]
  | .space => []
  | .identifier name => [.whole (.identifier name)]
  | .literal value => [piecesOfLiteral value]
  | .function name => [.word (uppercase name)]

/-- The characters that separators are written with. No piece that begins with another character
goes on with one of these. -/
def isBoundary (c : Char) : Bool :=
  c == ' ' || c == ',' || c == '*' || c == '(' || c == ')'

/-- A text that nothing before it goes on into. -/
def Ended (rest : List Char) : Prop :=
  ∀ c, rest.head? = some c → isBoundary c = true

/-- Reading a text gives these pieces, and then those of the rest. -/
def Begins (text : List Char) (pieces : List Piece) (rest : List Char) : Prop :=
  readPieces (text ++ rest) = (readPieces rest).map (pieces ++ ·)

section Reading

variable {rest : List Char}

theorem begins_space : Begins [' '] [] rest := by
  unfold Begins
  rw [List.singleton_append, readPieces, if_pos rfl]
  simp

/-- Two texts are cut into the pieces of both, if the first ends where the second begins. -/
theorem begins_append {first second : List Char} {pieces others : List Piece}
    (begun : Begins first pieces (second ++ rest)) (following : Begins second others rest) :
    Begins (first ++ second) (pieces ++ others) rest := by
  unfold Begins at *
  rw [List.append_assoc, begun, following, Option.map_map]
  congr 1
  funext more
  exact (List.append_assoc ..).symm

/-- What a reader read, and what it left, without the proof that it left no more than it was given. -/
def leaves {α : Type} {cs : List Char} (outcome : Option (α × Remainder cs)) :
    Option (α × List Char) :=
  outcome.map fun (value, after) => (value, after.1)

theorem read_of_leaves {α : Type} {cs : List Char} {outcome : Option (α × Remainder cs)} {value : α}
    (left : leaves outcome = some (value, rest)) :
    ∃ shorter, outcome = some (value, ⟨rest, shorter⟩) := by
  obtain ⟨⟨found, after⟩, read, same⟩ := Option.map_eq_some_iff.mp left
  obtain ⟨rfl, rfl⟩ := Prod.mk.inj same
  exact ⟨after.2, read⟩

/-- A piece is read from its first character on. -/
theorem begins_piece {c : Char} {more : List Char} {piece : Piece} (solid : c ≠ ' ')
    (read : leaves (readPiece c (more ++ rest)) = some (piece, rest)) :
    Begins (c :: more) [piece] rest := by
  obtain ⟨shorter, read⟩ := read_of_leaves read
  unfold Begins
  rw [List.cons_append, readPieces, if_neg solid, read]
  rfl

theorem boundary_ends_word {c : Char} (boundary : isBoundary c = true) : isWordChar c = false := by
  simp only [isBoundary, Bool.or_eq_true, beq_iff_eq] at boundary
  rcases boundary with (((rfl | rfl) | rfl) | rfl) | rfl <;> decide

theorem boundary_ends_number {c : Char} (boundary : isBoundary c = true) :
    Decimal.isNumberChar c = false := by
  simp only [isBoundary, Bool.or_eq_true, beq_iff_eq] at boundary
  rcases boundary with (((rfl | rfl) | rfl) | rfl) | rfl <;> decide

theorem letter_is_no_digit {c : Char} (letter : c.isAlpha = true) : c.isDigit = false := by
  have letterCode : 'A'.val ≤ c.val := by
    rcases Bool.or_eq_true_iff.mp letter with upper | lower
    · exact (of_decide_eq_true upper).1
    · have lowerCode : 'a'.val ≤ c.val := of_decide_eq_true (Bool.and_eq_true_iff.mp lower).1
      exact UInt32.le_trans (by decide) lowerCode
  cases digit : c.isDigit with
  | false => rfl
  | true =>
    have digitCode : c.val ≤ '9'.val := of_decide_eq_true (Bool.and_eq_true_iff.mp digit).2
    exact absurd (UInt32.le_trans letterCode digitCode) (by decide)

/-- A word is read whole, up to what ends it. -/
theorem begins_word {first : Char} {more : List Char} (letter : first.isAlpha = true)
    (inside : ∀ c ∈ more, isWordChar c = true) (ended : Ended rest) :
    Begins (first :: more) [.word (String.ofList (first :: more))] rest := by
  have other : first ≠ ' ' ∧ first ≠ '"' ∧ first ≠ '\'' ∧ first ≠ '-' := by
    refine ⟨?_, ?_, ?_, ?_⟩ <;> (rintro rfl; revert letter; decide)
  have noNumber : ¬ Decimal.startsNumber first (more ++ rest) = true := by
    simp [Decimal.startsNumber, letter_is_no_digit letter, other.2.2.2]
  obtain ⟨taken, left⟩ := stretch_ends inside fun c head => boundary_ends_word (ended c head)
  apply begins_piece other.1
  rw [readPiece, if_neg other.2.1, if_neg other.2.2.1, if_neg noNumber, if_pos letter, taken]
  exact congrArg (fun left => some (_, left)) left

/-- A number is read whole, up to what ends it. -/
theorem begins_number {text : List Char} (number : Decimal.IsNumber text) (ended : Ended rest) :
    Begins text [.whole (.number (String.ofList text))] rest := by
  obtain ⟨first, more, rfl, starts⟩ := Decimal.number_starts number
  have inside : ∀ c ∈ first :: more, Decimal.isNumberChar c = true :=
    Decimal.number_spelled number
  have other : first ≠ ' ' ∧ first ≠ '"' ∧ first ≠ '\'' := by
    have spelled := inside first List.mem_cons_self
    refine ⟨?_, ?_, ?_⟩ <;> (rintro rfl; revert spelled; decide)
  obtain ⟨taken, left⟩ := stretch_ends (fun c member => inside c (List.mem_cons_of_mem _ member))
    fun c head => boundary_ends_number (ended c head)
  apply begins_piece other.1
  rw [readPiece, if_neg other.2.1, if_neg other.2.2, if_pos (starts rest), taken]
  exact congrArg (fun left => some (_, left)) left

/-- A character that is no quote belongs to the quoted text. -/
theorem closeQuote_other {quote c : Char} (other : c ≠ quote) (more : List Char) :
    leaves (closeQuote quote (c :: more)) =
      (leaves (closeQuote quote more)).map fun (text, left) => (c :: text, left) := by
  cases more with
  | nil => simp [closeQuote, leaves, other]
  | cons next more =>
    simp only [closeQuote, other, ↓reduceIte, leaves, Option.map_map]
    rfl

/-- Two quotes are one quote of the quoted text. -/
theorem closeQuote_pair (quote : Char) (more : List Char) :
    leaves (closeQuote quote (quote :: quote :: more)) =
      (leaves (closeQuote quote more)).map fun (text, left) => (quote :: text, left) := by
  simp only [closeQuote, ↓reduceIte, leaves, Option.map_map]
  rfl

/-- Doubling the quotes of a text is undone where the text is closed. -/
theorem closeQuote_doubled (quote : Char) (text : List Char) (closed : rest.head? ≠ some quote) :
    leaves (closeQuote quote (doubled quote text ++ quote :: rest)) = some (text, rest) := by
  induction text with
  | nil =>
    cases rest with
    | nil => simp [doubled, closeQuote, leaves]
    | cons next rest =>
      have other : next ≠ quote := by simpa using closed
      simp [doubled, closeQuote, leaves, other]
  | cons c text ih =>
    by_cases same : c = quote
    · rw [doubled, if_pos same, List.cons_append, List.cons_append, closeQuote_pair, ih, same]
      rfl
    · rw [doubled, if_neg same, List.cons_append, closeQuote_other same, ih]
      rfl

theorem boundary_is_no_quote (ended : Ended rest) {quote : Char} (isQuote : isBoundary quote = false) :
    rest.head? ≠ some quote := by
  intro head
  rw [ended quote head] at isQuote
  cases isQuote

/-- A name is read up to its closing quote, whatever quotes are in it. -/
theorem begins_identifier (name : String) (ended : Ended rest) :
    Begins (identifierText name).toList [.whole (.identifier name)] rest := by
  have closed := closeQuote_doubled '"' name.toList (boundary_is_no_quote ended (by decide))
  rw [identifierText, quoted, String.toList_ofList]
  apply begins_piece (by decide)
  rw [List.append_assoc, List.singleton_append, readPiece, if_pos rfl]
  obtain ⟨shorter, read⟩ := read_of_leaves closed
  rw [read]
  simp [leaves]

/-- A string is read up to its closing quote, whatever quotes are in it. -/
theorem begins_string (text : String) (ended : Ended rest) :
    Begins (stringText text).toList [.whole (.string text)] rest := by
  have closed := closeQuote_doubled '\'' text.toList (boundary_is_no_quote ended (by decide))
  rw [stringText, quoted, String.toList_ofList]
  apply begins_piece (by decide)
  rw [List.append_assoc, List.singleton_append, readPiece, if_neg (by decide), if_pos rfl]
  obtain ⟨shorter, read⟩ := read_of_leaves closed
  rw [read]
  simp [leaves]

/-- The characters that marks are written with are no characters of anything else. -/
theorem begins_sign {c : Char} {more : List Char} {sign : Mark}
    (symbol : (c ≠ ' ' ∧ c ≠ '"' ∧ c ≠ '\'') ∧ c.isDigit = false ∧ c ≠ '-' ∧ c.isAlpha = false)
    (read : leaves (readMark c (more ++ rest)) = some (sign, rest)) :
    Begins (c :: more) [.whole (.mark sign)] rest := by
  obtain ⟨⟨solid, noName, noString⟩, noDigit, noMinus, noLetter⟩ := symbol
  have noNumber : ¬ Decimal.startsNumber c (more ++ rest) = true := by
    simp [Decimal.startsNumber, noDigit, noMinus]
  obtain ⟨shorter, read⟩ := read_of_leaves read
  apply begins_piece solid
  rw [readPiece, if_neg noName, if_neg noString, if_neg noNumber, noLetter, if_neg (by decide), read]
  rfl

theorem mark_chars (sign : Mark) : sign.text.toList = match sign with
    | .comma => [',']
    | .star => ['*']
    | .openParen => ['(']
    | .closeParen => [')']
    | .equal => ['=']
    | .notEqual => ['!', '=']
    | .less => ['<']
    | .greater => ['>']
    | .lessOrEqual => ['<', '=']
    | .greaterOrEqual => ['>', '='] := by
  cases sign <;> rfl

/-- A mark is read as long as it is, and no longer. -/
theorem begins_mark (sign : Mark)
    (ended : sign = .less ∨ sign = .greater → rest.head? ≠ some '=') :
    Begins sign.text.toList [.whole (.mark sign)] rest := by
  rw [mark_chars]
  cases sign with
  | less =>
    have noEquals := ended (.inl rfl)
    exact begins_sign (by decide) (by simp [readMark, leaves, noEquals, Remainder.all])
  | greater =>
    have noEquals := ended (.inr rfl)
    exact begins_sign (by decide) (by simp [readMark, leaves, noEquals, Remainder.all])
  | _ => exact begins_sign (by decide) rfl

/-- Whether a text is one word. -/
def isWord : List Char → Bool
  | [] => false
  | first :: more => first.isAlpha && more.all isWordChar

theorem begins_text_of_word {text : String} (word : isWord text.toList = true)
    (ended : Ended rest) : Begins text.toList [.word text] rest := by
  cases chars : text.toList with
  | nil => simp [chars, isWord] at word
  | cons first more =>
    simp only [chars, isWord, Bool.and_eq_true, List.all_eq_true] at word
    rw [← String.ofList_toList (s := text), chars]
    exact begins_word word.1 word.2 ended

/-- A keyword is read as the one or two words that it is made of. -/
theorem begins_keyword (word : Keyword) (ended : Ended rest) :
    Begins word.text.toList (piecesOf (.keyword word)) rest := by
  have pair (first second : String) (isFirst : isWord first.toList = true)
      (isSecond : isWord second.toList = true) :
      Begins (first.toList ++ ([' '] ++ second.toList)) [.word first, .word second] rest := by
    have spaced : Begins ([' '] ++ second.toList) [.word second] rest :=
      begins_append begins_space (begins_text_of_word isSecond ended)
    have headed : Begins first.toList [.word first] ([' '] ++ second.toList ++ rest) :=
      begins_text_of_word isFirst (by simp [Ended, isBoundary])
    exact begins_append headed spaced
  cases word with
  | groupBy => exact pair "GROUP" "BY" (by decide) (by decide)
  | orderBy => exact pair "ORDER" "BY" (by decide) (by decide)
  | _ => exact begins_text_of_word (by decide) ended

/-- A literal is read as one piece. -/
theorem begins_literal (value : Literal) (ended : Ended rest) :
    Begins value.sql.toList [piecesOfLiteral value] rest := by
  cases value with
  | null => exact begins_text_of_word (by decide) ended
  | text value => exact begins_string value ended
  | integer value =>
    have number := begins_number (Decimal.number_int value.toInt) ended
    rwa [String.ofList_toList] at number
  | real value =>
    have finite : Literal.sql (.real value) = realText value := rfl
    rw [finite, realText, piecesOfLiteral, ofLiteral]
    split
    · have number := begins_number (Decimal.number_compact value) ended
      rwa [String.ofList_toList] at number
    · exact begins_text_of_word (by decide) ended
  | boolean value => cases value <;> exact begins_text_of_word (by decide) ended
  | uuid value => exact begins_string value.text ended
  | temporal value => exact begins_string value.text ended

end Reading

end ColumnQuery.Lexing
