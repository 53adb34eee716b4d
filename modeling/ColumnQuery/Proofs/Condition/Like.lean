import ColumnQuery.Proofs.Condition.ReadBack
import ColumnQuery.Proofs.Lexing.Compiled
import Mathlib.Data.List.Infix

/-! What the predicates on the text of a column are true of, under the rules of LIKE. A value becomes
part of a pattern as it stands, so a `%` or a `_` in it is a wildcard there: what is looked for is a
stretch of the column that the value matches as a pattern. A value without wildcards matches itself
alone, and only such a value is looked for literally. -/
namespace ColumnQuery
open Sql

/-! ## LIKE -/

/-- The characters that do not stand for themselves in a pattern. -/
def isWildcard (c : Char) : Bool :=
  c == '%' || c == '_'

/-- Whether a text matches a pattern: `%` is any run of characters, `_` is any one character, and
every other character is itself. -/
def isLike : (pattern text : List Char) → Bool
  | [], text => text.isEmpty
  | '%' :: pattern, text => text.tails.any (isLike pattern)
  | _ :: _, [] => false
  | c :: pattern, first :: rest => (c == '_' || c == first) && isLike pattern rest

section Like

variable {pattern text value : List Char}

/-- A run of any length goes before what the rest of the pattern matches. -/
theorem like_run : isLike ('%' :: pattern) text = true ↔
    ∃ skipped rest, skipped ++ rest = text ∧ isLike pattern rest = true := by
  rw [isLike, List.any_eq_true]
  constructor
  · rintro ⟨rest, suffix, matched⟩
    obtain ⟨skipped, split⟩ := (List.mem_tails _ _).mp suffix
    exact ⟨skipped, rest, split, matched⟩
  · rintro ⟨skipped, rest, split, matched⟩
    exact ⟨rest, (List.mem_tails _ _).mpr ⟨skipped, split⟩, matched⟩

/-- A character that is no run takes one character of the text, any one if it is `_`. -/
theorem like_char {c : Char} (single : c ≠ '%') : isLike (c :: pattern) text = true ↔
    ∃ first rest, text = first :: rest ∧ (c = '_' ∨ c = first) ∧ isLike pattern rest = true := by
  cases text with
  | nil => simp [isLike]
  | cons first rest => simp [isLike]

theorem like_nil : isLike [] text = true ↔ text = [] := by
  rw [isLike, List.isEmpty_iff]

theorem like_any_run : isLike ['%'] text = true :=
  like_run.mpr ⟨text, [], List.append_nil _, rfl⟩

/-- A pattern of two parts matches one stretch of the text by each. -/
theorem like_append {second : List Char} : isLike (pattern ++ second) text = true ↔
    ∃ left right, left ++ right = text ∧ isLike pattern left = true ∧
      isLike second right = true := by
  induction pattern generalizing text with
  | nil => simp [like_nil]
  | cons c pattern ih =>
    by_cases run : c = '%'
    · subst run
      simp only [List.cons_append, like_run, ih]
      constructor
      · rintro ⟨skipped, _, rfl, left, right, rfl, first, last⟩
        exact ⟨skipped ++ left, right, List.append_assoc .., ⟨skipped, left, rfl, first⟩, last⟩
      · rintro ⟨_, right, rfl, ⟨skipped, left, rfl, first⟩, last⟩
        exact ⟨skipped, left ++ right, (List.append_assoc ..).symm, left, right, rfl, first, last⟩
    · simp only [List.cons_append, like_char run, ih]
      constructor
      · rintro ⟨first, _, rfl, same, left, right, rfl, begun, last⟩
        exact ⟨first :: left, right, rfl, ⟨first, left, rfl, same, begun⟩, last⟩
      · rintro ⟨_, right, rfl, ⟨first, left, rfl, same, begun⟩, last⟩
        exact ⟨first, left ++ right, rfl, same, left, right, rfl, begun, last⟩

/-- A pattern without wildcards matches itself alone. -/
theorem like_literal (plain : ∀ c ∈ value, isWildcard c = false) :
    isLike value text = true ↔ text = value := by
  induction value generalizing text with
  | nil => exact like_nil
  | cons c value ih =>
    have literal := plain c (.head _)
    simp only [isWildcard, Bool.or_eq_false_iff, beq_eq_false_iff_ne] at literal
    have rest (text : List Char) := @ih text fun d member => plain d (.tail _ member)
    rw [like_char literal.1]
    constructor
    · rintro ⟨first, more, rfl, same, matched⟩
      rw [(rest more).mp matched, same.resolve_left literal.2]
    · rintro rfl
      exact ⟨c, value, rfl, .inr rfl, (rest value).mpr rfl⟩

/-! A run on either side of a pattern lets it match within a text, one behind it at the start, and one
before it at the end. -/

/-- Runs on both sides leave a pattern to match anywhere within a text. -/
theorem like_within : isLike ('%' :: (pattern ++ ['%'])) text = true ↔
    ∃ part, part <:+: text ∧ isLike pattern part = true := by
  simp only [like_run, like_append, like_any_run, and_true]
  constructor
  · rintro ⟨before, _, rfl, part, after, rfl, matched⟩
    exact ⟨part, ⟨before, after, List.append_assoc ..⟩, matched⟩
  · rintro ⟨part, ⟨before, after, rfl⟩, matched⟩
    exact ⟨before, part ++ after, (List.append_assoc ..).symm, part, after, rfl, matched⟩

/-- A run behind a pattern leaves it to match at the start of a text. -/
theorem like_start : isLike (pattern ++ ['%']) text = true ↔
    ∃ part, part <+: text ∧ isLike pattern part = true := by
  simp only [like_append, like_any_run, and_true]
  constructor
  · rintro ⟨part, after, split, matched⟩
    exact ⟨part, ⟨after, split⟩, matched⟩
  · rintro ⟨part, ⟨after, split⟩, matched⟩
    exact ⟨part, after, split, matched⟩

/-- A run in front of a pattern leaves it to match at the end of a text. -/
theorem like_end : isLike ('%' :: pattern) text = true ↔
    ∃ part, part <:+ text ∧ isLike pattern part = true := by
  rw [like_run]
  constructor
  · rintro ⟨before, part, split, matched⟩
    exact ⟨part, ⟨before, split⟩, matched⟩
  · rintro ⟨part, ⟨before, split⟩, matched⟩
    exact ⟨before, part, split, matched⟩

/-- A text without wildcards that a pattern matches: runs are left empty, and a letter is put for
each single character. -/
def filled (pattern : List Char) : List Char :=
  pattern.flatMap fun c => if c = '%' then [] else if c = '_' then ['a'] else [c]

/-- A pattern matches the text that it is filled to. -/
theorem like_filled (pattern : List Char) : isLike pattern (filled pattern) = true := by
  induction pattern with
  | nil => rfl
  | cons c pattern ih =>
    rw [filled, List.flatMap_cons]
    by_cases run : c = '%'
    · subst run
      exact like_run.mpr ⟨[], _, rfl, ih⟩
    · by_cases single : c = '_'
      · subst single
        exact (like_char run).mpr ⟨'a', _, rfl, .inl rfl, ih⟩
      · simp only [run, single, ↓reduceIte]
        exact (like_char run).mpr ⟨c, _, rfl, .inr rfl, ih⟩

theorem filled_is_plain : ∀ c ∈ filled pattern, isWildcard c = false := by
  intro c member
  obtain ⟨d, -, member⟩ := List.mem_flatMap.mp member
  split at member
  · cases member
  · next run =>
    split at member
    · cases List.mem_singleton.mp member
      decide
    · next single =>
      cases List.mem_singleton.mp member
      simp [isWildcard, run, single]

end Like

/-! ## Matches -/

/-- A definite truth value. -/
def Truth.ofBool (value : Bool) : Truth :=
  if value then .holds else .fails

theorem Truth.ofBool_holds {value : Bool} : ofBool value = .holds ↔ value = true := by
  cases value <;> decide

/-- The truth values of predicates on a row whose columns are texts. Only those that match a column
itself with the pattern in a string are settled by LIKE alone. -/
def Atom.onTexts (row : String → String) (others : Atom → Truth) : Atom → Truth
  | .like (.column name) negated (.text pattern) =>
    .ofBool (isLike pattern.toList (row name).toList != negated)
  | predicate => others predicate

namespace TextMatch

/-- Whether a text has, at the place that the match looks at, a stretch that is wanted. -/
def Finds (wanted : List Char → Prop) (text : List Char) : TextMatch → Prop
  | .contains => ∃ part, part <:+: text ∧ wanted part
  | .doesNotContain => ¬ ∃ part, part <:+: text ∧ wanted part
  | .startsWith => ∃ part, part <+: text ∧ wanted part
  | .endsWith => ∃ part, part <:+ text ∧ wanted part

/-- What the name of a match says of a value and a text. -/
def Means (value text : List Char) : TextMatch → Prop
  | .contains => value <:+: text
  | .doesNotContain => ¬ value <:+: text
  | .startsWith => value <+: text
  | .endsWith => value <:+ text

variable {value text : List Char} {wanted : List Char → Prop} (kind : TextMatch)

theorem finds_only (only : ∀ part, wanted part ↔ part = value) :
    kind.Finds wanted text ↔ kind.Means value text := by
  cases kind <;> simp [Finds, Means, only]

/-- The pattern made from a value finds a stretch that the value matches as a pattern of its own. -/
theorem pattern_finds (value : String) (text : List Char) :
    (isLike (kind.operator.likePattern value).toList text != kind.operator.isNegated) = true ↔
      kind.Finds (fun part => isLike value.toList part = true) text := by
  have within : ("%" ++ value ++ "%").toList = '%' :: (value.toList ++ ['%']) := by simp
  cases kind with
  | contains =>
    change (isLike ("%" ++ value ++ "%").toList text != false) = true ↔ _
    rw [within, Bool.bne_false]
    exact like_within
  | doesNotContain =>
    change (isLike ("%" ++ value ++ "%").toList text != true) = true ↔ _
    rw [within, Bool.bne_true, Bool.not_eq_true', ← Bool.not_eq_true]
    exact not_congr like_within
  | startsWith =>
    change (isLike (value ++ "%").toList text != false) = true ↔ _
    rw [String.toList_append, Bool.bne_false]
    exact like_start
  | endsWith =>
    change (isLike ("%" ++ value).toList text != false) = true ↔ _
    rw [String.toList_append, Bool.bne_false]
    exact like_end

/-- A value with a wildcard in it also finds the texts that it is filled to, where it does not stand
itself. -/
theorem finds_literally_iff : (∀ text, kind.Finds (fun part => isLike value part = true) text ↔
    kind.Means value text) ↔ ∀ c ∈ value, isWildcard c = false := by
  constructor
  · intro literal c member
    have whole : isLike value (filled value) = true := like_filled value
    have stands : value <:+: filled value := by
      have same := literal (filled value)
      cases kind with
      | contains => exact same.mp ⟨_, List.infix_rfl, whole⟩
      | doesNotContain => exact (not_iff_not.mp same).mp ⟨_, List.infix_rfl, whole⟩
      | startsWith => exact (same.mp ⟨_, List.prefix_rfl, whole⟩).isInfix
      | endsWith => exact (same.mp ⟨_, List.suffix_rfl, whole⟩).isInfix
    exact filled_is_plain c (stands.subset member)
  · intro plain text
    exact finds_only kind fun part => like_literal plain

/-- What is written to match a column with one string is read, character by character and token by
token, as a LIKE on that column. It is true of a row exactly when the column has, anywhere, at its
start or at its end, a stretch that the string matches as a pattern, and for `doesNotContain` when
it has none. That this is the string itself, for every row, is the case exactly when no wildcard is
among its characters. -/
theorem match_finds_pattern (column value : String) : ∃ phrase condition,
    Predicate.onField column kind.operator [.text value] true = .ok phrase ∧
      Lexing.lex (Phrase.text phrase) = some (phrase.filterMap Lexing.ofToken) ∧
      Condition.read phrase = some condition ∧
      (∀ row others, condition.truth (Atom.onTexts row others) = .holds ↔
        kind.Finds (fun part => isLike value.toList part = true) (row column).toList) ∧
      ((∀ row others, condition.truth (Atom.onTexts row others) = .holds ↔
          kind.Means value.toList (row column).toList) ↔
        ∀ c ∈ value.toList, isWildcard c = false) := by
  have pattern : kind.operator.isPattern = true := by cases kind <;> rfl
  obtain ⟨phrase, made⟩ : ∃ phrase,
      Predicate.onField column kind.operator [.text value] true = .ok phrase := by
    cases kind <;> exact ⟨_, rfl⟩
  have read := Filter.read_of_stands_alone (Filter.match_stands_alone pattern made)
  have said (row : String → String) (others : Atom → Truth) :
      (Condition.atom (.matching column kind.operator true (.text value))).truth
        (Atom.onTexts row others) = .holds ↔
          kind.Finds (fun part => isLike value.toList part = true) (row column).toList :=
    Truth.ofBool_holds.trans (pattern_finds kind value _)
  refine ⟨phrase, _, made, Lexing.lex_text (Lexing.readable_predicate made), read, said, ?_⟩
  simp only [said]
  rw [← finds_literally_iff kind]
  constructor
  · intro literal text
    simpa using literal (fun _ => String.ofList text) fun _ => .unknown
  · intro literal row _
    exact literal _

/-- The value `a_c` is found in a text that does not contain it. -/
theorem wildcard_finds_other_text : ∃ phrase condition,
    Predicate.onField "name" .contains [.text "a_c"] true = .ok phrase ∧
      Phrase.text phrase = "\"name\" LIKE '%a_c%'" ∧ Condition.read phrase = some condition ∧
      (∀ others, condition.truth (Atom.onTexts (fun _ => "abc") others) = .holds) ∧
      ¬ Means "a_c".toList "abc".toList .contains := by
  have made : Predicate.onField "name" .contains [.text "a_c"] true =
      .ok (Predicate.patternMatch "name" .contains true (.text "a_c")) := rfl
  have read := Filter.read_of_stands_alone (Filter.match_stands_alone rfl made)
  have holds (others : Atom → Truth) : Atom.onTexts (fun _ => "abc") others
      (.matching "name" .contains true (.text "a_c")) = .holds :=
    Truth.ofBool_holds.mpr (by decide)
  refine ⟨_, _, made, by decide, read, holds, ?_⟩
  rw [Means]
  decide

end TextMatch

end ColumnQuery
