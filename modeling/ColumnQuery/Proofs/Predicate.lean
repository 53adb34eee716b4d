import ColumnQuery.Predicate
import ColumnQuery.Proofs.Decimal.Spelling
import ColumnQuery.Proofs.Sql.Pieces
import ColumnQuery.Proofs.Text.Strip

/-! The texts of predicates. A predicate begins with a quoted column, a call or a parenthesis and ends
with a literal or a parenthesis, so nothing of it is lost when the blanks around a text are dropped. -/
namespace ColumnQuery
open Sql Text

/-! ## Literals -/

theorem number_char_is_not_blank {c : Char} (spelled : Decimal.isNumberChar c = true) :
    isBlank c = false := by
  obtain ⟨low, high⟩ : 0x2d ≤ c.toNat ∧ c.toNat ≤ 0x65 := by
    simp only [Decimal.isNumberChar, Char.isDigit, Bool.or_eq_true, Bool.and_eq_true,
      decide_eq_true_eq, beq_iff_eq, UInt32.le_iff_toNat_le] at spelled
    rcases spelled with ((digit | rfl) | rfl) | rfl
    · exact ⟨le_trans (by decide) digit.1, le_trans digit.2 (by decide)⟩
    · decide
    · decide
    · decide
  exact visible_is_not_blank (by omega) (by omega)

/-- A number ends with no blank. -/
theorem closes_number {text : List Char} (number : Decimal.IsNumber text) : Closes isBlank text := by
  obtain ⟨first, more, rfl, -⟩ := Decimal.number_starts number
  have ends := List.getLast?_eq_some_getLast (List.cons_ne_nil first more)
  refine ⟨_, ends, number_char_is_not_blank (Decimal.number_spelled number _ ?_)⟩
  exact List.getLast_mem _

theorem closes_quoted {quote : Char} (other : isBlank quote = false) (content : String) :
    Closes isBlank (quoted quote content).toList := by
  refine ⟨quote, ?_, other⟩
  rw [quoted, String.toList_ofList, ← List.cons_append, List.getLast?_concat]
  exact rfl

theorem opens_quoted {quote : Char} (other : isBlank quote = false) (content : String) :
    Opens isBlank (quoted quote content).toList := by
  refine ⟨quote, ?_, other⟩
  rw [quoted, String.toList_ofList]
  exact rfl

/-- A literal does not end with a blank: what there is of blanks in it stands between quotes. -/
theorem closes_literal (literal : Literal) : Closes isBlank literal.sql.toList := by
  have string (content : String) : Closes isBlank (stringText content).toList :=
    closes_quoted (by decide) content
  cases literal with
  | null => exact ⟨'L', by decide, by decide⟩
  | text value => exact string value
  | integer value => exact closes_number (Decimal.number_int value.toInt)
  | real value =>
    rw [Literal.sql, realText]
    split
    · exact closes_number (Decimal.number_compact value)
    · exact ⟨'L', by decide, by decide⟩
  | boolean value => cases value <;> exact ⟨'E', by decide, by decide⟩
  | uuid value => exact string value.text
  | temporal value => exact string value.text

/-! ## Predicates -/

/-- A phrase whose text neither begins nor ends with a blank. -/
structure Sql.Phrase.IsTrimmed (phrase : Phrase) : Prop where
  opens : Opens isBlank (Phrase.text phrase).toList
  closes : Closes isBlank (Phrase.text phrase).toList

/-- A trimmed phrase is not changed by trimming. -/
theorem trim_text {phrase : Phrase} (trimmed : phrase.IsTrimmed) :
    trim (Phrase.text phrase) = Phrase.text phrase := by
  rw [trim, strip_bare (isBare_of_ends trimmed.opens trimmed.closes), String.ofList_toList]

theorem nonempty_of_trimmed {phrase : Phrase} (trimmed : phrase.IsTrimmed) : phrase ≠ [] := by
  rintro rfl
  obtain ⟨c, begins, -⟩ := trimmed.opens
  cases begins

theorem opens_text {first : Phrase} (opens : Opens isBlank (Phrase.text first).toList)
    (rest : Phrase) : Opens isBlank (Phrase.text (first ++ rest)).toList := by
  rw [Phrase.text_append, String.toList_append]
  exact opens_append opens _

theorem opens_token {token : Token} (opens : Opens isBlank token.text.toList) (rest : Phrase) :
    Opens isBlank (Phrase.text (token :: rest)).toList := by
  rw [Phrase.text_cons, String.toList_append]
  exact opens_append opens _

theorem closes_text (before : Phrase) {last : Phrase}
    (closes : Closes isBlank (Phrase.text last).toList) :
    Closes isBlank (Phrase.text (before ++ last)).toList := by
  rw [Phrase.text_append, String.toList_append]
  exact closes_append _ closes

theorem closes_token (before : Phrase) {token : Token}
    (closes : Closes isBlank token.text.toList) :
    Closes isBlank (Phrase.text (before ++ [token])).toList := by
  refine closes_text before ?_
  rwa [Phrase.text_cons, Phrase.text_nil, String.append_empty]

/-- Between parentheses there may be any blanks. -/
theorem trimmed_parenthesized (phrase : Phrase) : (Phrase.parenthesized phrase).IsTrimmed := by
  have opening : Opens isBlank (Token.mark .openParen).text.toList := ⟨'(', by decide, by decide⟩
  have closing : Closes isBlank (Token.mark .closeParen).text.toList := ⟨')', by decide, by decide⟩
  rw [Phrase.parenthesized]
  exact ⟨opens_text (opens_token opening phrase) _, closes_token _ closing⟩

namespace Predicate

theorem opens_identifier (column : String) (rest : Phrase) :
    Opens isBlank (Phrase.text (.identifier column :: rest)).toList := by
  have opening : Opens isBlank (Token.identifier column).text.toList :=
    opens_quoted (by decide) column
  exact opens_token opening rest

theorem closes_last (before : Phrase) (literal : Literal) :
    Closes isBlank (Phrase.text (before ++ [.literal literal])).toList := by
  have closing : Closes isBlank (Token.literal literal).text.toList := closes_literal literal
  exact closes_token before closing

/-- A list of values ends with a literal or a parenthesis. -/
theorem closes_values {values : List Literal} (some_value : values ≠ []) :
    Closes isBlank (Phrase.text ((values? values).getD [])).toList := by
  match values with
  | [] => exact absurd rfl some_value
  | [value] => exact closes_last [] value
  | first :: second :: others => exact (trimmed_parenthesized _).closes

/-- An equality is trimmed. -/
theorem trimmed_equality {values : List Literal} (some_value : values ≠ []) (column : String)
    (negated : Bool) : (equality column negated values).IsTrimmed := by
  rw [equality]
  constructor
  · exact opens_text (opens_text (opens_text (opens_identifier column _) _) _) _
  · exact closes_text _ (closes_values some_value)

theorem opens_subject (column : String) (caseSensitive : Bool) :
    Opens isBlank (Phrase.text (subject column caseSensitive)).toList := by
  cases caseSensitive with
  | true => exact opens_identifier column []
  | false =>
    have opening : Opens isBlank (Token.function "lower").text.toList :=
      ⟨'L', by decide +kernel, by decide⟩
    exact opens_token opening _

/-- A match is trimmed. -/
theorem trimmed_patternMatch (column : String) (operator : Operator) (caseSensitive : Bool)
    (value : Literal) : (patternMatch column operator caseSensitive value).IsTrimmed := by
  rw [patternMatch]
  constructor
  · exact opens_text (opens_text (opens_text (opens_subject column caseSensitive) _) _) _
  · exact closes_text _ (closes_last [.keyword .like, .space] _)

/-- A combination of trimmed conditions is trimmed. -/
theorem trimmed_combined {phrases : List Phrase} (each : ∀ phrase ∈ phrases, phrase.IsTrimmed)
    (joiner : Keyword) : (combined joiner phrases).IsTrimmed := by
  unfold combined
  split
  · exact each _ (List.mem_singleton_self _)
  · exact trimmed_parenthesized _

/-- There are no blanks around a predicate. -/
theorem trimmed_onField {column : String} {operator : Operator} {values : List Literal}
    {caseSensitive : Bool} {phrase : Phrase}
    (made : onField column operator values caseSensitive = .ok phrase) : phrase.IsTrimmed := by
  unfold onField at made
  split at made
  · cases made
  · next present =>
    split at made
    · cases made
      refine trimmed_combined (fun phrase member => ?_) _
      obtain ⟨value, -, rfl⟩ := List.mem_map.mp member
      exact trimmed_patternMatch column operator caseSensitive value
    · cases made
      refine trimmed_equality ?_ column operator.isNegated
      rintro rfl
      exact present rfl

end Predicate

end ColumnQuery
