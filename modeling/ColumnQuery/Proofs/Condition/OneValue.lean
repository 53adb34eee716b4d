import ColumnQuery.Param.Basic
import ColumnQuery.Proofs.Condition.Basic
import ColumnQuery.Proofs.Lexing.Compiled
import ColumnQuery.Proofs.Scalars
import ColumnQuery.Proofs.Sql.Pieces

/-! Conditions and parameters that differ in one value. Where a value stands as a literal, two of them
come to one text exactly when the two values are written alike; where it becomes a part of a pattern,
exactly when what is searched for is the same text. -/
namespace ColumnQuery
open Sql

/-- How a value gets into a statement: as a literal, or as the pattern that is made from it. -/
inductive Place
  | inlined
  | matched (caseSensitive : Bool)

/-- Whether two literals come to the same at a place. An absent value is not searched for. -/
def Place.Alike : Place → Literal → Literal → Prop
  | .inlined, first, second => first.sql = second.sql
  | .matched caseSensitive, first, second =>
    first.isNull = second.isNull ∧ first.searched caseSensitive = second.searched caseSensitive

/-- Where an operator puts the values that a column is compared with. -/
def Operator.place (operator : Operator) (caseSensitive : Bool) : Place :=
  if operator.isPattern then .matched caseSensitive else .inlined

/-! ## Differing in one value -/

section Differing

variable (first second : Literal)

/-- Two filters that are the same but for one value at a place. -/
inductive Filter.DiffersAt : Place → Filter → Filter → Prop
  | compare (comparison : Comparison) (field : FieldRef) :
      DiffersAt .inlined (.compare comparison field first) (.compare comparison field second)
  | low (field : FieldRef) (high : Literal) :
      DiffersAt .inlined (.between field first high) (.between field second high)
  | high (field : FieldRef) (low : Literal) :
      DiffersAt .inlined (.between field low first) (.between field low second)
  | member (field : FieldRef) (before after : List Literal) (negated : Bool) :
      DiffersAt .inlined (.member field (before ++ first :: after) negated)
        (.member field (before ++ second :: after) negated)
  | textMatch (kind : TextMatch) (field : FieldRef) (caseSensitive : Bool) :
      DiffersAt (.matched caseSensitive) (.textMatch kind field first caseSensitive)
        (.textMatch kind field second caseSensitive)
  | all {place : Place} {part other : Filter} (before after : List Filter)
      (inside : DiffersAt place part other) :
      DiffersAt place (.all (before ++ part :: after)) (.all (before ++ other :: after))
  | any {place : Place} {part other : Filter} (before after : List Filter)
      (inside : DiffersAt place part other) :
      DiffersAt place (.any (before ++ part :: after)) (.any (before ++ other :: after))
  | not {place : Place} {part other : Filter} (inside : DiffersAt place part other) :
      DiffersAt place (.not part) (.not other)

/-- Two parameters that are the same but for one value at a place. -/
inductive Param.DiffersAt : Place → Param → Param → Prop
  | scalar : DiffersAt .inlined (.scalar first) (.scalar second)
  | list (before after : List Literal) :
      DiffersAt .inlined (.list (before ++ first :: after)) (.list (before ++ second :: after))
  | fieldFilter (field : FieldRef) (operator : Operator) (before after : List Literal)
      (caseSensitive : Bool) :
      DiffersAt (operator.place caseSensitive)
        (.fieldFilter ⟨field, operator, before ++ first :: after, caseSensitive⟩)
        (.fieldFilter ⟨field, operator, before ++ second :: after, caseSensitive⟩)

end Differing

/-! ## One phrase among others -/

namespace Sql.Phrase

variable {before after : List Phrase} {part other : Phrase} {separator : Token}

/-- The same text around two phrases leaves them as alike as they are. -/
theorem text_between (left right : Phrase) :
    text (left ++ part ++ right) = text (left ++ other ++ right) ↔ text part = text other := by
  rw [text_append, text_append, text_append, text_append, String.append_left_inj,
    String.append_right_inj]

/-- What is joined before and after a phrase does not depend on the phrase. -/
theorem joined_split (separator : Token) (before after : List Phrase) : ∃ left right, ∀ part,
    joined separator (before ++ part :: after) = left ++ part ++ right := by
  induction before with
  | nil =>
    cases after with
    | nil => exact ⟨[], [], fun part => (List.append_nil part).symm⟩
    | cons next others => exact ⟨[], gap separator ++ joined separator (next :: others),
        fun part => List.append_assoc ..⟩
  | cons phrase rest ih =>
    obtain ⟨left, right, split⟩ := ih
    refine ⟨phrase ++ gap separator ++ left, right, fun part => ?_⟩
    have several : joined separator (phrase :: (rest ++ part :: after)) =
        phrase ++ gap separator ++ joined separator (rest ++ part :: after) := by
      cases rest <;> rfl
    rw [List.cons_append, several, split, List.append_assoc, List.append_assoc, List.append_assoc,
      List.append_assoc, List.append_assoc]

theorem text_joined_iff : text (joined separator (before ++ part :: after)) =
    text (joined separator (before ++ other :: after)) ↔ text part = text other := by
  obtain ⟨left, right, split⟩ := joined_split separator before after
  rw [split, split, text_between]

theorem text_parenthesized_iff :
    text (parenthesized part) = text (parenthesized other) ↔ text part = text other :=
  text_between [.mark .openParen] [.mark .closeParen]

end Sql.Phrase

/-! ## Predicates on a column -/

namespace Predicate

variable {before after : List Literal} {first second : Literal} {left right : Phrase}
  {column : String} {operator : Operator} {caseSensitive : Bool}

/-- One item among others is the only one in a list of one. -/
theorem alone_of_length {α : Type} {before after : List α} {item : α}
    (single : (before ++ item :: after).length = 1) : before = [] ∧ after = [] := by
  simp only [List.length_append, List.length_cons] at single
  exact ⟨List.length_eq_zero_iff.mp (by omega), List.length_eq_zero_iff.mp (by omega)⟩

theorem values_several {values : List Literal} (several : values.length ≠ 1)
    (nonempty : values ≠ []) : (values? values).getD [] =
      Phrase.parenthesized (Phrase.listed (values.map fun value => [.literal value])) := by
  match values with
  | [] => exact absurd rfl nonempty
  | [value] => exact absurd rfl several
  | first :: second :: others => rfl

theorem text_literal (value : Literal) : Phrase.text [.literal value] = value.sql :=
  String.append_empty

/-- One value of a list is the only difference in its text. -/
theorem text_values_iff : Phrase.text ((values? (before ++ first :: after)).getD []) =
    Phrase.text ((values? (before ++ second :: after)).getD []) ↔ first.sql = second.sql := by
  by_cases single : (before ++ first :: after).length = 1
  · obtain ⟨rfl, rfl⟩ := alone_of_length single
    rw [← text_literal first, ← text_literal second]
    rfl
  · have other : (before ++ second :: after).length ≠ 1 := by simpa using single
    rw [values_several single (by simp), values_several other (by simp),
      Phrase.text_parenthesized_iff, Phrase.listed, Phrase.listed, List.map_append, List.map_append,
      List.map_cons, List.map_cons, Phrase.text_joined_iff, text_literal, text_literal]

/-- Equalities with lists that differ in one value come to one text exactly when the two values are
written alike. -/
theorem text_equality_iff (negated : Bool) :
    Phrase.text (equality column negated (before ++ first :: after)) =
      Phrase.text (equality column negated (before ++ second :: after)) ↔ first.sql = second.sql := by
  have length : (before ++ first :: after).length = (before ++ second :: after).length := by simp
  rw [equality, equality, length, Phrase.text_append, Phrase.text_append _ ((values? _).getD []),
    String.append_right_inj, text_values_iff]

theorem combined_several {joiner : Keyword} {phrases : List Phrase} (several : phrases.length ≠ 1) :
    combined joiner phrases = Phrase.parenthesized (Phrase.joined (.keyword joiner) phrases) := by
  match phrases with
  | [] => rfl
  | [phrase] => exact absurd rfl several
  | first :: second :: others => rfl

/-- A combination of conditions shows each of its parts. -/
theorem text_combined_iff {joiner : Keyword} {before after : List Phrase} {part other : Phrase} :
    Phrase.text (combined joiner (before ++ part :: after)) =
      Phrase.text (combined joiner (before ++ other :: after)) ↔
        Phrase.text part = Phrase.text other := by
  by_cases single : (before ++ part :: after).length = 1
  · obtain ⟨rfl, rfl⟩ := alone_of_length single
    rfl
  · have several : (before ++ other :: after).length ≠ 1 := by simpa using single
    rw [combined_several single, combined_several several, Phrase.text_parenthesized_iff,
      Phrase.text_joined_iff]

/-- A pattern shows what is searched for, between its wildcards. -/
theorem text_patternMatch_iff :
    Phrase.text (patternMatch column operator caseSensitive first) =
      Phrase.text (patternMatch column operator caseSensitive second) ↔
        first.searched caseSensitive = second.searched caseSensitive := by
  have written (value : Literal) : pattern operator caseSensitive value =
      operator.wildcards.1 ++ value.searched caseSensitive ++ operator.wildcards.2 := rfl
  have literal (value : Literal) : Phrase.text [.keyword .like, .space,
      .literal (.text (pattern operator caseSensitive value))] =
        Phrase.text [.keyword .like, .space] ++
          (Literal.text (pattern operator caseSensitive value)).sql := by
    rw [← text_literal, ← Phrase.text_append]
    rfl
  have strings : (Literal.text (pattern operator caseSensitive first)).sql =
      (Literal.text (pattern operator caseSensitive second)).sql ↔
        pattern operator caseSensitive first = pattern operator caseSensitive second :=
    ⟨fun same => Literal.text.inj (sql_inj trivial trivial same), fun same => by rw [same]⟩
  rw [patternMatch, patternMatch, Phrase.text_append, Phrase.text_append _ [.keyword .like, _, _],
    String.append_right_inj, literal, literal, String.append_right_inj, strings, written, written,
    String.append_left_inj, String.append_right_inj]

/-! ## How many patterns there are -/

/-- How many LIKEs are read in a phrase. -/
def likes (phrase : Phrase) : Nat :=
  (phrase.filterMap Lexing.ofToken).count (.keyword .like)

theorem likes_append (first second : Phrase) : likes (first ++ second) = likes first + likes second := by
  rw [likes, List.filterMap_append, List.count_append, likes, likes]

theorem likes_joined {joiner : Keyword} (other : joiner ≠ .like) (phrases : List Phrase) :
    likes (Phrase.joined (.keyword joiner) phrases) = (phrases.map likes).sum := by
  have gap : likes (Phrase.gap (.keyword joiner)) = 0 := by
    cases joiner with
    | like => exact absurd rfl other
    | _ => rfl
  induction phrases with
  | nil => rfl
  | cons phrase rest ih =>
    cases rest with
    | nil => simp [Phrase.joined]
    | cons next others =>
      change likes (phrase ++ _ ++ Phrase.joined _ (next :: others)) = _
      rw [likes_append, likes_append, gap, ih, Nat.add_zero, ← List.sum_cons, ← List.map_cons]

theorem likes_combined {joiner : Keyword} (other : joiner ≠ .like) (phrases : List Phrase) :
    likes (combined joiner phrases) = (phrases.map likes).sum := by
  unfold combined
  split
  · simp
  · rw [Phrase.parenthesized, likes_append, likes_append, likes_joined other]
    exact (Nat.add_zero _).trans (Nat.zero_add _)

/-- One match is one LIKE, whatever stands in its strings. -/
theorem likes_patternMatch (column : String) (operator : Operator) (caseSensitive : Bool)
    (value : Literal) : likes (patternMatch column operator caseSensitive value) = 1 := by
  unfold patternMatch subject
  cases caseSensitive <;> cases operator.isNegated <;> rfl

/-- There is one LIKE for every value that is not absent. -/
theorem likes_patterns (column : String) (operator : Operator) (caseSensitive : Bool)
    (values : List Literal) :
    likes (patterns column operator caseSensitive values) = (values.filter (!·.isNull)).length := by
  have other : (if operator.isNegated then Keyword.and else .or) ≠ .like := by
    cases operator.isNegated <;> decide
  rw [patterns, likes_combined other, List.map_map]
  simp [Function.comp_def, likes_patternMatch]

section Patterns

variable
  (readableFirst : Lexing.Readable (patterns column operator caseSensitive (before ++ first :: after)))
  (readableSecond : Lexing.Readable (patterns column operator caseSensitive (before ++ second :: after)))

include readableFirst readableSecond in
/-- A list with an absent value has one pattern less than one without. -/
theorem isNull_of_patterns
    (same : Phrase.text (patterns column operator caseSensitive (before ++ first :: after)) =
      Phrase.text (patterns column operator caseSensitive (before ++ second :: after))) :
    first.isNull = second.isNull := by
  have lexemes := Lexing.lexemes_of_text readableFirst readableSecond same
  have counts := congrArg (List.count (.keyword .like)) lexemes
  change likes _ = likes _ at counts
  rw [likes_patterns, likes_patterns] at counts
  cases isNull : first.isNull <;> cases isNull' : second.isNull <;>
    simp [isNull, isNull', List.filter_append] at counts ⊢

theorem text_present_patterns_iff (present : first.isNull = false)
    (present' : second.isNull = false) :
    Phrase.text (patterns column operator caseSensitive (before ++ first :: after)) =
      Phrase.text (patterns column operator caseSensitive (before ++ second :: after)) ↔
        first.searched caseSensitive = second.searched caseSensitive := by
  rw [patterns, patterns, List.filter_append, List.filter_append,
    List.filter_cons_of_pos (by simp [present]), List.filter_cons_of_pos (by simp [present']),
    List.map_append, List.map_append, List.map_cons, List.map_cons, text_combined_iff,
    text_patternMatch_iff]

include readableFirst readableSecond in
/-- Matches of lists that differ in one value come to one text exactly when both values are absent, or
neither is and one text is searched for. -/
theorem text_patterns_iff :
    Phrase.text (patterns column operator caseSensitive (before ++ first :: after)) =
      Phrase.text (patterns column operator caseSensitive (before ++ second :: after)) ↔
        (Place.matched caseSensitive).Alike first second := by
  have alone (absent : first.isNull = true) (absent' : second.isNull = true) : first = second :=
    (Literal.isNull_iff.mp absent).trans (Literal.isNull_iff.mp absent').symm
  constructor
  · intro same
    have nulls := isNull_of_patterns readableFirst readableSecond same
    refine ⟨nulls, ?_⟩
    cases absent : first.isNull with
    | true => rw [alone absent (nulls ▸ absent)]
    | false => exact (text_present_patterns_iff absent (nulls ▸ absent)).mp same
  · rintro ⟨nulls, searched⟩
    cases absent : first.isNull with
    | true => rw [alone absent (nulls ▸ absent)]
    | false => exact (text_present_patterns_iff absent (nulls ▸ absent)).mpr searched

end Patterns

/-- Two predicates on a column that differ in one value have one text exactly when the values come to
the same at their place. -/
theorem onField_alike
    (writtenFirst : onField column operator (before ++ first :: after) caseSensitive = .ok left)
    (writtenSecond : onField column operator (before ++ second :: after) caseSensitive = .ok right) :
    Phrase.text left = Phrase.text right ↔ (operator.place caseSensitive).Alike first second := by
  have readableFirst := Lexing.readable_predicate writtenFirst
  have readableSecond := Lexing.readable_predicate writtenSecond
  unfold onField at writtenFirst writtenSecond
  unfold Operator.place
  split at writtenFirst
  · cases writtenFirst
  · split at writtenSecond
    · cases writtenSecond
    · cases kind : operator.isPattern with
      | true =>
        rw [if_pos kind] at writtenFirst writtenSecond
        cases writtenFirst
        cases writtenSecond
        exact text_patterns_iff readableFirst readableSecond
      | false =>
        rw [kind, if_neg Bool.false_ne_true] at writtenFirst writtenSecond
        cases writtenFirst
        cases writtenSecond
        exact text_equality_iff operator.isNegated

end Predicate

/-! ## Filters and parameters -/

variable {first second : Literal} {names : FieldNames} {place : Place} {left right : Phrase}

namespace Filter

/-- In a group of filters the others are written before and after one of them. -/
theorem phrases_split {before after : List Filter} {part : Filter} {written : List Phrase}
    (made : phrases names (before ++ part :: after) = .ok written) :
    ∃ earlier phrase later, phrases names before = .ok earlier ∧ part.phrase names = .ok phrase ∧
      phrases names after = .ok later ∧ written = earlier ++ phrase :: later := by
  induction before generalizing written with
  | nil =>
    rw [List.nil_append, phrases] at made
    cases head : part.phrase names with
    | error cause => simp [head] at made
    | ok phrase =>
      simp only [head] at made
      obtain ⟨later, tail, rfl⟩ := Outcome.ok_of_map made
      exact ⟨[], phrase, later, rfl, rfl, tail, rfl⟩
  | cons other rest ih =>
    rw [List.cons_append, phrases] at made
    cases head : other.phrase names with
    | error cause => simp [head] at made
    | ok first =>
      simp only [head] at made
      obtain ⟨others, tail, rfl⟩ := Outcome.ok_of_map made
      obtain ⟨earlier, phrase, later, wrote, inner, following, rfl⟩ := ih tail
      refine ⟨first :: earlier, phrase, later, ?_, inner, following, rfl⟩
      rw [phrases, head, wrote]
      rfl

/-- A group of filters is as alike as the parts are in which two groups differ. -/
theorem group_alike {before after : List Filter} {part other : Filter} {joiner : Keyword}
    {fault : CompileError} {left right : Phrase}
    (writtenFirst : (if (before ++ part :: after).isEmpty then .error fault
      else (phrases names (before ++ part :: after)).map (group joiner)) = .ok left)
    (writtenSecond : (if (before ++ other :: after).isEmpty then .error fault
      else (phrases names (before ++ other :: after)).map (group joiner)) = .ok right) :
    ∃ inner outer, part.phrase names = .ok inner ∧ other.phrase names = .ok outer ∧
      (Phrase.text left = Phrase.text right ↔ Phrase.text inner = Phrase.text outer) := by
  obtain ⟨-, written, made, rfl⟩ := group_written writtenFirst
  obtain ⟨-, written', made', rfl⟩ := group_written writtenSecond
  obtain ⟨earlier, inner, later, wrote, found, following, rfl⟩ := phrases_split made
  obtain ⟨earlier', outer, later', wrote', found', following', rfl⟩ := phrases_split made'
  cases wrote.symm.trans wrote'
  cases following.symm.trans following'
  refine ⟨inner, outer, found, found', ?_⟩
  rw [group, group, Phrase.text_parenthesized_iff, Phrase.text_joined_iff]

/-- Two filters that differ in one value come to one text exactly when the values are alike at their
place. -/
theorem alike_of_differs {filter other : Filter} (differs : DiffersAt first second place filter other)
    {left right : Phrase} (writtenFirst : filter.phrase names = .ok left)
    (writtenSecond : other.phrase names = .ok right) :
    Phrase.text left = Phrase.text right ↔ place.Alike first second := by
  have literals (before after : Phrase) :
      Phrase.text (before ++ [.literal first] ++ after) =
        Phrase.text (before ++ [.literal second] ++ after) ↔ first.sql = second.sql := by
    rw [Phrase.text_between, Predicate.text_literal, Predicate.text_literal]
  induction differs generalizing left right with
  | compare comparison field =>
    obtain ⟨-, rfl⟩ := identifier_written writtenFirst
    obtain ⟨-, rfl⟩ := identifier_written writtenSecond
    exact literals [.identifier _, .space, .mark comparison.mark, .space] []
  | low field high =>
    obtain ⟨-, rfl⟩ := identifier_written writtenFirst
    obtain ⟨-, rfl⟩ := identifier_written writtenSecond
    exact literals [.identifier _, .space, .keyword .between, .space]
      [.space, .keyword .and, .space, .literal high]
  | high field low =>
    obtain ⟨-, rfl⟩ := identifier_written writtenFirst
    obtain ⟨-, rfl⟩ := identifier_written writtenSecond
    exact literals [.identifier _, .space, .keyword .between, .space, .literal low, .space,
      .keyword .and, .space] []
  | member field before after negated =>
    obtain ⟨-, madeFirst⟩ := predicate_written writtenFirst
    obtain ⟨-, madeSecond⟩ := predicate_written writtenSecond
    cases negated <;> exact Predicate.onField_alike madeFirst madeSecond
  | textMatch kind field caseSensitive =>
    obtain ⟨-, madeFirst⟩ := predicate_written writtenFirst
    obtain ⟨-, madeSecond⟩ := predicate_written writtenSecond
    have alike := @Predicate.onField_alike [] [] first second left right _ kind.operator
      caseSensitive madeFirst madeSecond
    cases kind <;> exact alike
  | all before after inside ih =>
    obtain ⟨inner, outer, found, found', same⟩ := group_alike writtenFirst writtenSecond
    exact same.trans (ih found found')
  | any before after inside ih =>
    obtain ⟨inner, outer, found, found', same⟩ := group_alike writtenFirst writtenSecond
    exact same.trans (ih found found')
  | not inside ih =>
    obtain ⟨inner, found, rfl⟩ := Outcome.ok_of_map writtenFirst
    obtain ⟨outer, found', rfl⟩ := Outcome.ok_of_map writtenSecond
    rw [Phrase.text_append, Phrase.text_append, String.append_right_inj]
    exact ih found found'

end Filter

theorem Param.list_written {values : List Literal} {name : String} {phrase : Phrase}
    (made : Param.phrase names name (.list values) = .ok phrase) :
    phrase = (Predicate.values? values).getD [] := by
  rw [Param.phrase] at made
  cases found : Predicate.values? values with
  | none =>
    rw [found] at made
    cases made
  | some written =>
    rw [found] at made
    exact (Except.ok.inj made).symm

/-- Two parameters that differ in one value come to one text exactly when the values are alike at their
place. -/
theorem Param.alike_of_differs {param other : Param} (differs : DiffersAt first second place param other)
    {name : String} (writtenFirst : param.phrase names name = .ok left)
    (writtenSecond : other.phrase names name = .ok right) :
    Phrase.text left = Phrase.text right ↔ place.Alike first second := by
  cases differs with
  | scalar =>
    cases writtenFirst
    cases writtenSecond
    rw [Predicate.text_literal, Predicate.text_literal]
    rfl
  | list before after =>
    rw [list_written writtenFirst, list_written writtenSecond, Predicate.text_values_iff]
    rfl
  | fieldFilter field operator before after caseSensitive =>
    unfold phrase filterPhrase at writtenFirst writtenSecond
    dsimp only at writtenFirst writtenSecond
    cases found : names.nameOf field with
    | error cause =>
      rw [found] at writtenFirst
      cases writtenFirst
    | ok column =>
      rw [found] at writtenFirst writtenSecond
      exact Predicate.onField_alike writtenFirst writtenSecond

/-! ## Scalars -/

/-- Whether two scalars come to one text at a place: a literal tells every two apart that do not share a
double, and a pattern those that are searched for by different texts. -/
def Place.Confuses : Place → Json → Json → Prop
  | .inlined, first, second => first = second ∨ first.SharesDouble second
  | .matched caseSensitive, first, second =>
    (first = .null ↔ second = .null) ∧
      first.literal.searched caseSensitive = second.literal.searched caseSensitive

/-- Two scalars are written alike exactly when they are the same or share a double. -/
theorem sql_eq_iff {first second : Json} (left : first.IsScalar) (right : second.IsScalar) :
    first.literal.sql = second.literal.sql ↔ first = second ∨ first.SharesDouble second := by
  rw [← literal_eq_iff left right]
  constructor
  · exact sql_inj (literal_isScalar (ofJson_scalar left)) (literal_isScalar (ofJson_scalar right))
  · intro same
    rw [same]

theorem alike_iff_confuses {first second : Json} (left : first.IsScalar) (right : second.IsScalar)
    (place : Place) : place.Alike first.literal second.literal ↔ place.Confuses first second := by
  cases place with
  | inlined => exact sql_eq_iff left right
  | matched caseSensitive =>
    rw [Place.Alike, Place.Confuses, ← literal_isNull_iff left, ← literal_isNull_iff right,
      Bool.eq_iff_iff]

/-- Every JSON scalar has a literal, and the literals of two scalars are written alike only if the
scalars are the same or share a double, which takes an integer beyond the signed words. Two filters
that differ in one value, and two parameters that do, have one text exactly when their values are
confused at the place where they stand. -/
theorem scalars_written_apart {first second : Json} (left : first.IsScalar)
    (right : second.IsScalar) :
    ∃ value other, Literal.ofJson? first = some value ∧ Literal.ofJson? second = some other ∧
      (value.sql = other.sql ↔ first = second ∨ first.SharesDouble second) ∧
      (first.SharesDouble second → first ≠ second → ∃ word : UInt64,
        0x8000000000000000 ≤ word.toNat ∧ (first = .ofWord word ∨ second = .ofWord word)) ∧
      (∀ (names : FieldNames) (place : Place) (f g : Filter) (p q : Phrase),
        Filter.DiffersAt value other place f g → f.phrase names = .ok p → g.phrase names = .ok q →
          (Phrase.text p = Phrase.text q ↔ place.Confuses first second)) ∧
      ∀ (names : FieldNames) (name : String) (place : Place) (f g : Param) (p q : Phrase),
        Param.DiffersAt value other place f g → f.phrase names name = .ok p →
          g.phrase names name = .ok q →
            (Phrase.text p = Phrase.text q ↔ place.Confuses first second) := by
  refine ⟨_, _, ofJson_scalar left, ofJson_scalar right, sql_eq_iff left right, wide_of_shared, ?_, ?_⟩
  · intro names place f g p q differs writtenFirst writtenSecond
    rw [← alike_iff_confuses left right]
    exact Filter.alike_of_differs differs writtenFirst writtenSecond
  · intro names name place f g p q differs writtenFirst writtenSecond
    rw [← alike_iff_confuses left right]
    exact Param.alike_of_differs differs writtenFirst writtenSecond

/-- The largest signed word and the next integer, which becomes a double, are written apart. -/
theorem word_limit_written_apart :
    (Json.ofWord 0x7fffffffffffffff).IsScalar ∧ (Json.ofWord 0x8000000000000000).IsScalar ∧
      ∃ value other, Literal.ofJson? (.ofWord 0x7fffffffffffffff) = some value ∧
        Literal.ofJson? (.ofWord 0x8000000000000000) = some other ∧ value.sql ≠ other.sql ∧
          ∀ p q, Param.phrase {} "n" (.list [.null, value]) = .ok p →
            Param.phrase {} "n" (.list [.null, other]) = .ok q → Phrase.text p ≠ Phrase.text q := by
  have left : (Json.ofWord 0x7fffffffffffffff).IsScalar := trivial
  have right : (Json.ofWord 0x8000000000000000).IsScalar := trivial
  have apart : ¬ Place.inlined.Confuses (.ofWord 0x7fffffffffffffff) (.ofWord 0x8000000000000000) := by
    rintro (same | shared)
    · cases same
    · exact absurd (words_share_double.mp shared).1.1 (by decide)
  obtain ⟨value, other, reads, reads', texts, -, -, params⟩ := scalars_written_apart left right
  refine ⟨left, right, value, other, reads, reads', fun same => apart (texts.mp same), ?_⟩
  intro p q written written' same
  have differs : Param.DiffersAt value other .inlined (.list [.null, value]) (.list [.null, other]) :=
    .list [.null] []
  exact apart ((params {} "n" .inlined _ _ p q differs written written').mp same)

/-- Two neighbouring integers beyond the signed words are written alike, and so are patterns of the
number one and of its digit. -/
theorem neighbours_written_alike :
    (Json.ofWord 0x8000000000000000 ≠ .ofWord 0x8000000000000001 ∧
      ∃ value other, Literal.ofJson? (.ofWord 0x8000000000000000) = some value ∧
        Literal.ofJson? (.ofWord 0x8000000000000001) = some other ∧ value.sql = other.sql) ∧
    ∃ value other, Literal.ofJson? (.ofWord 1) = some value ∧
      Literal.ofJson? (.string "1") = some other ∧ ∃ p,
        (Filter.textMatch .contains (.byName "a") value true).phrase {} = .ok p ∧
          (Filter.textMatch .contains (.byName "a") other true).phrase {} = .ok p := by
  have shared : (Json.ofWord 0x8000000000000000).SharesDouble (.ofWord 0x8000000000000001) :=
    words_share_double.mpr ⟨by decide, by decide⟩
  have left : (Json.ofWord 0x8000000000000000).IsScalar := trivial
  have right : (Json.ofWord 0x8000000000000001).IsScalar := trivial
  constructor
  · refine ⟨fun same => ?_, _, _, ofJson_scalar left, ofJson_scalar right, ?_⟩
    · cases same
    · exact (sql_eq_iff left right).mpr (.inr shared)
  · have one : Literal.ofJson? (.ofWord 1) = some (.integer 1) := by decide +kernel
    exact ⟨_, _, one, rfl, [.identifier "a", .space, .keyword .like, .space, .literal (.text "%1%")],
      rfl, rfl⟩

end ColumnQuery
