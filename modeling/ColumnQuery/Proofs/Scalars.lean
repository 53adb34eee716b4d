import ColumnQuery.Proofs.Decimal.PlaceValue
import ColumnQuery.Proofs.Lexing.Phrases
import ColumnQuery.Proofs.Query.WellFormed

/-! JSON scalars in statements. A scalar becomes a literal and is written as such. Different literals
are written differently, so what can be confused is only what became one literal: numbers that no
signed word holds and that have one nearest double. -/
namespace ColumnQuery
open Sql

/-! ## Scalars as literals -/

/-- A JSON value that is neither a list nor an object. -/
def Json.IsScalar : Json → Prop
  | .array _ => False
  | .object _ => False
  | _ => True

/-- The literal that a scalar stands for. -/
def Json.literal (value : Json) : Literal :=
  (Literal.ofJson? value).getD .null

theorem ofJson_scalar {value : Json} (scalar : value.IsScalar) :
    Literal.ofJson? value = some value.literal := by
  cases value with
  | number n =>
    rw [Json.literal, Literal.ofJson?]
    split <;> rfl
  | array items => exact scalar.elim
  | object members => exact scalar.elim
  | _ => rfl

theorem literal_isNull_iff {value : Json} (scalar : value.IsScalar) :
    value.literal.isNull = true ↔ value = .null := by
  cases value with
  | number n =>
    rw [Json.literal, Literal.ofJson?]
    split <;> simp [Literal.isNull]
  | array items => exact scalar.elim
  | object members => exact scalar.elim
  | _ => simp [Json.literal, Literal.ofJson?, Literal.isNull]

/-- Two numbers that no signed word holds and that have one nearest double. -/
inductive Json.SharesDouble : Json → Json → Prop
  | intro {first second : Json.Number} (left : first.int64? = none) (right : second.int64? = none)
      (same : first.toBinary64 = second.toBinary64) :
      SharesDouble (.number first) (.number second)

theorem int64_of_word {word : UInt64} {low high} :
    (Json.Number.integer word.toNat low high).int64? = none ↔ 0x8000000000000000 ≤ word.toNat := by
  rw [int64_none_iff]
  omega

theorem toBinary64_of_word {word : UInt64} {low high} :
    (Json.Number.integer word.toNat low high).toBinary64 = Binary64.ofNat word.toNat := by
  rw [Json.Number.toBinary64, if_neg (by omega), Int.natAbs_natCast]

/-- Two unsigned words share a double exactly when neither is a signed word and both round to one
multiple of 2048. -/
theorem words_share_double {first second : UInt64} :
    (Json.ofWord first).SharesDouble (Json.ofWord second) ↔
      (0x8000000000000000 ≤ first.toNat ∧ 0x8000000000000000 ≤ second.toNat) ∧
        Binary64.nearestEven first.toNat 2048 = Binary64.nearestEven second.toNat 2048 := by
  have rounded (left : 0x8000000000000000 ≤ first.toNat) (right : 0x8000000000000000 ≤ second.toNat) :=
    Binary64.ofNat_eq_iff_of_wide ⟨left, first.toNat_lt⟩ ⟨right, second.toNat_lt⟩
  unfold Json.ofWord
  constructor
  · intro shared
    cases shared with
    | intro left right same =>
      rw [int64_of_word] at left right
      rw [toBinary64_of_word, toBinary64_of_word, rounded left right] at same
      exact ⟨⟨left, right⟩, same⟩
  · rintro ⟨⟨left, right⟩, same⟩
    refine .intro (int64_of_word.mpr left) (int64_of_word.mpr right) ?_
    rw [toBinary64_of_word, toBinary64_of_word, rounded left right, same]

theorem word_of_wide {value : Int} {low high}
    (wide : (Json.Number.integer value low high).int64? = none) :
    ∃ word : UInt64, 0x8000000000000000 ≤ word.toNat ∧
      Json.number (.integer value low high) = .ofWord word := by
  rw [int64_none_iff] at wide
  have small : value.toNat < 2 ^ 64 := by omega
  have same : (UInt64.ofNat value.toNat).toNat = value.toNat := UInt64.toNat_ofNat_of_lt' small
  refine ⟨UInt64.ofNat value.toNat, by omega, ?_⟩
  simp only [Json.ofWord, Json.number.injEq, Json.Number.integer.injEq]
  omega

/-- Of two different numbers that share a double, one is an unsigned word that is no signed one. -/
theorem wide_of_shared {first second : Json} (shared : first.SharesDouble second)
    (different : first ≠ second) : ∃ word : UInt64, 0x8000000000000000 ≤ word.toNat ∧
      (first = .ofWord word ∨ second = .ofWord word) := by
  cases shared with
  | @intro m n left right same =>
    cases m with
    | integer value low high =>
      obtain ⟨word, beyond, written⟩ := word_of_wide left
      exact ⟨word, beyond, .inl written⟩
    | real x finite =>
      cases n with
      | integer value low high =>
        obtain ⟨word, beyond, written⟩ := word_of_wide right
        exact ⟨word, beyond, .inr written⟩
      | real y finite' =>
        obtain rfl : x = y := same
        exact absurd rfl different

theorem integer_of_int64 {n : Json.Number} {word : Int64} (fits : n.int64? = some word) :
    ∃ low high, n = .integer word.toInt low high := by
  cases n with
  | real value finite => cases fits
  | integer value low high =>
    rw [Json.Number.int64?] at fits
    split at fits
    · next below =>
      cases fits
      have same : (Int64.ofInt value).toInt = value := Int64.toInt_ofInt_of_le low below
      rw [same]
      exact ⟨low, high, rfl⟩
    · cases fits

/-- A number that fits a word becomes an integer. -/
theorem literal_of_word {n : Json.Number} {word : Int64} (fits : n.int64? = some word) :
    (Json.number n).literal = .integer word := by
  simp only [Json.literal, Literal.ofJson?, fits, Option.getD_some]

/-- A number that fits no word becomes the double nearest to it. -/
theorem literal_of_wide {n : Json.Number} (wide : n.int64? = none) :
    (Json.number n).literal = .real n.toBinary64 := by
  simp only [Json.literal, Literal.ofJson?, wide, Option.getD_some]

/-- Two numbers become one literal when they are the same, or are wide and share a double. -/
theorem number_literal_inj {first second : Json.Number}
    (same : (Json.number first).literal = (Json.number second).literal) :
    Json.number first = .number second ∨ (Json.number first).SharesDouble (.number second) := by
  cases left : first.int64? with
  | some word =>
    rw [literal_of_word left] at same
    cases right : second.int64? with
    | none => cases same.trans (literal_of_wide right)
    | some other =>
      cases same.trans (literal_of_word right)
      obtain ⟨_, _, rfl⟩ := integer_of_int64 left
      obtain ⟨_, _, rfl⟩ := integer_of_int64 right
      exact .inl rfl
  | none =>
    rw [literal_of_wide left] at same
    cases right : second.int64? with
    | some other => cases same.trans (literal_of_word right)
    | none =>
      have doubles := same.trans (literal_of_wide right)
      exact .inr (.intro left right (Literal.real.inj doubles))

/-- A number becomes no literal that another scalar becomes. -/
theorem number_of_literal_eq {n : Json.Number} {other : Json} (scalar : other.IsScalar)
    (same : (Json.number n).literal = other.literal) : ∃ m, other = .number m := by
  have number : (Json.number n).literal.IsNumber := literal_of_number (ofJson_scalar trivial)
  rw [same] at number
  cases other with
  | number m => exact ⟨m, rfl⟩
  | array items => exact scalar.elim
  | object members => exact scalar.elim
  | _ => exact number.elim

/-- Scalars become different literals unless they share a double. -/
theorem literal_eq_iff {first second : Json} (left : first.IsScalar) (right : second.IsScalar) :
    first.literal = second.literal ↔ first = second ∨ first.SharesDouble second := by
  constructor
  · intro same
    cases first with
    | number n =>
      obtain ⟨m, rfl⟩ := number_of_literal_eq right same
      exact number_literal_inj same
    | array items => exact left.elim
    | object members => exact left.elim
    | _ =>
      left
      cases second with
      | number n =>
        obtain ⟨m, other⟩ := number_of_literal_eq left same.symm
        cases other
      | array items => exact right.elim
      | object members => exact right.elim
      | _ => cases same <;> rfl
  · rintro (same | shared)
    · rw [same]
    · cases shared with
      | intro wide other doubles => rw [literal_of_wide wide, literal_of_wide other, doubles]

/-! ## Literals as texts -/

section Texts
open Lexing

variable {first second : Literal}

theorem ofLiteral_real {x : Binary64} (finite : x.isFinite = true) :
    ofLiteral (.real x) = .number (Decimal.compact.text x) := by
  rw [ofLiteral, if_pos finite]

/-- What a number is found to be is enough to tell which number it is. -/
theorem ofLiteral_number_inj (left : first.IsNumber) (right : second.IsNumber)
    (same : ofLiteral first = ofLiteral second) : first = second := by
  cases first with
  | integer n =>
    cases second with
    | integer m =>
      have texts : toString n.toInt = toString m.toInt := Lexeme.number.inj same
      have values : n.toInt = m.toInt := by
        rw [← Decimal.integerOf_int n.toInt, texts, Decimal.integerOf_int]
      rw [Int64.toInt_inj.mp values]
    | real y =>
      rw [ofLiteral_real right] at same
      exact absurd (Lexeme.number.inj same).symm (Decimal.compact_ne_int y _)
    | _ => exact right.elim
  | real x =>
    rw [ofLiteral_real left] at same
    cases second with
    | integer m => exact absurd (Lexeme.number.inj same) (Decimal.compact_ne_int x _)
    | real y =>
      rw [ofLiteral_real right] at same
      rw [Decimal.compact_inj (Lexeme.number.inj same)]
    | _ => exact right.elim
  | _ => exact left.elim

theorem number_of_lexeme (scalar : first.IsScalar) {text : String}
    (found : ofLiteral first = .number text) : first.IsNumber := by
  cases first with
  | integer n => trivial
  | real x => exact scalar
  | _ => cases found

/-- Scalars that are written alike are the same scalar. -/
theorem ofLiteral_inj (left : first.IsScalar) (right : second.IsScalar)
    (same : ofLiteral first = ofLiteral second) : first = second := by
  cases first with
  | integer n => exact ofLiteral_number_inj left (number_of_lexeme right same.symm) same
  | real x =>
    have found := same.symm.trans (ofLiteral_real left)
    exact ofLiteral_number_inj left (number_of_lexeme right found) same
  | uuid value => exact left.elim
  | temporal value => exact left.elim
  | _ =>
    cases second with
    | real y =>
      rw [ofLiteral_real right] at same
      cases same
    | uuid value => exact right.elim
    | temporal value => exact right.elim
    | _ => cases same <;> rfl

/-- The literals of scalars are written differently. A text is read as the literal that it was made
from, so that no string is written like a word, and no word like a number. -/
theorem sql_inj (left : first.IsScalar) (right : second.IsScalar) (same : first.sql = second.sql) :
    first = second := by
  have readable (literal : Literal) : Readable [.literal literal] := readable_single (by simp)
  have texts : Phrase.text [.literal first] = Phrase.text [.literal second] :=
    congrArg (· ++ "") same
  have lexemes := lexemes_of_text (readable first) (readable second) texts
  exact ofLiteral_inj left right (List.cons.inj lexemes).1

end Texts

end ColumnQuery
