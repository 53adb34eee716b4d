import ColumnQuery.Proofs.Condition.Grammar
import ColumnQuery.Proofs.Condition.OfFilter
import ColumnQuery.Proofs.Condition.Written

/-! The condition that is written for a filter reads back as what the filter says, however AND, OR
and NOT are nested in it. The invariant is that every phrase written for a filter stands alone:
whatever follows it, the negation level reads it whole and nothing behind it. -/
namespace ColumnQuery
open Sql

namespace Condition

/-- Wherever the phrase stands, the negation level of the grammar reads it as this condition and
stops right behind it. -/
def StandsAlone (phrase : Phrase) (condition : Condition) : Prop :=
  ∀ rest, Reads (readNegation (significant phrase ++ rest)) condition rest

/-- NOT in front of what stands alone stands alone. -/
theorem stands_alone_not {phrase : Phrase} {part : Condition} (inner : StandsAlone phrase part) :
    StandsAlone ([.keyword .not, .space] ++ phrase) (.not part) :=
  fun rest => reads_not (inner rest)

theorem significant_joined (joiner : Keyword) (first second : Phrase) (others : List Phrase) :
    significant (Phrase.joined (.keyword joiner) (first :: second :: others)) =
      significant first ++
        .keyword joiner :: significant (Phrase.joined (.keyword joiner) (second :: others)) := by
  rw [Phrase.joined, significant_append, significant_append, List.append_assoc]
  · rfl
  · simp

theorem significant_parenthesized (phrase : Phrase) :
    significant (Phrase.parenthesized phrase) =
      .mark .openParen :: (significant phrase ++ [.mark .closeParen]) :=
  congrArg (Token.mark .openParen :: ·) (significant_append ..)

section Joined

variable {phrases : List Phrase} {parts : List Condition} {rest : Phrase}

/-- Phrases joined by AND are the conjuncts of one chain, up to a token that is no AND. -/
theorem reads_joined_conjuncts (alone : List.Forall₂ StandsAlone phrases parts)
    (nonempty : parts ≠ []) (ended : rest.head? ≠ some (.keyword .and)) :
    Reads (readConjuncts (significant (Phrase.joined (.keyword .and) phrases) ++ rest)) parts
      rest := by
  induction alone with
  | nil => exact absurd rfl nonempty
  | cons head tail ih =>
    cases tail with
    | nil => exact reads_last_conjunct (head rest) ended
    | cons next others =>
      rw [significant_joined, List.append_assoc]
      exact reads_conjunct (head _) (ih (List.cons_ne_nil _ _))

/-- Phrases joined by OR are alternatives of one conjunct each, up to a token that is neither AND
nor OR. -/
theorem reads_joined_disjuncts (alone : List.Forall₂ StandsAlone phrases parts)
    (nonempty : parts ≠ []) (andEnded : rest.head? ≠ some (.keyword .and))
    (orEnded : rest.head? ≠ some (.keyword .or)) :
    Reads (readDisjuncts (significant (Phrase.joined (.keyword .or) phrases) ++ rest)) parts
      rest := by
  induction alone with
  | nil => exact absurd rfl nonempty
  | cons head tail ih =>
    cases tail with
    | nil => exact reads_last_disjunct (reads_last_conjunct (head rest) andEnded) orEnded
    | cons next others =>
      rw [significant_joined, List.append_assoc]
      refine reads_disjunct (reads_last_conjunct (head _) ?_) (ih (List.cons_ne_nil _ _))
      simp

/-- A parenthesized group of conjuncts reads as all of its parts. -/
theorem stands_alone_all (alone : List.Forall₂ StandsAlone phrases parts) (nonempty : parts ≠ []) :
    StandsAlone (Filter.group .and phrases) (ofConjuncts parts) := by
  intro rest
  have chain : Reads (readConjuncts (significant (Phrase.joined (.keyword .and) phrases) ++
      .mark .closeParen :: rest)) parts (.mark .closeParen :: rest) :=
    reads_joined_conjuncts alone nonempty (by simp)
  rw [Filter.group, significant_parenthesized, List.cons_append, List.append_assoc]
  exact reads_group (reads_last_disjunct chain (by simp))

/-- A parenthesized group of alternatives reads as any of its parts. -/
theorem stands_alone_any (alone : List.Forall₂ StandsAlone phrases parts) (nonempty : parts ≠ []) :
    StandsAlone (Filter.group .or phrases) (ofDisjuncts parts) := by
  intro rest
  rw [Filter.group, significant_parenthesized, List.cons_append, List.append_assoc]
  exact reads_group (reads_joined_disjuncts alone nonempty (by simp) (by simp))

end Joined

/-! ## Predicates -/

/-- A predicate is a condition by itself, without NOT and parentheses. -/
theorem reads_atom {tokens rest : Phrase} {predicate : Atom}
    (read : Reads (Atom.read tokens) predicate rest) :
    Reads (readNegation tokens) (.atom predicate) rest := by
  obtain ⟨shorter, read⟩ := read
  rw [readNegation.eq_def]
  split
  · cases read
  · cases read
  · rw [read]
    exact ⟨_, rfl⟩

theorem reads_predicate {subject : Subject} {predicate : Atom} {tokens said rest : Phrase}
    (named : Reads (Subject.read tokens) subject said)
    (read : Reads (Atom.readOf subject said) predicate rest) :
    Reads (readNegation tokens) (.atom predicate) rest := by
  obtain ⟨shorterSaid, named⟩ := named
  obtain ⟨shorter, read⟩ := read
  apply reads_atom
  rw [Atom.read, named]
  simp only [read]
  exact ⟨_, rfl⟩

theorem reads_column (name : String) (said : Phrase) :
    Reads (Subject.read (.identifier name :: said)) (.column name) said :=
  ⟨_, rfl⟩

/-- The values of a list, from its first one to the parenthesis that closes it. -/
theorem reads_values (first : Literal) (others : List Literal) (rest : Phrase) :
    Reads (Atom.readValues (significant (Phrase.listed ((first :: others).map fun value =>
      [.literal value])) ++ .mark .closeParen :: rest)) (first :: others) rest := by
  induction others generalizing first with
  | nil => exact ⟨_, rfl⟩
  | cons next others ih =>
    obtain ⟨shorter, following⟩ := ih next
    have separated : significant (Phrase.listed ((first :: next :: others).map fun value =>
        [.literal value])) =
        .literal first :: .mark .comma :: significant (Phrase.listed ((next :: others).map
          fun value => [.literal value])) := rfl
    rw [separated, List.cons_append, List.cons_append, Atom.readValues, following]
    exact ⟨_, rfl⟩

theorem reads_membership (subject : Subject) (negated : Bool) {values : List Literal}
    {tokens rest : Phrase} (listed : Reads (Atom.readValues tokens) values rest) :
    Reads (Atom.readOf subject (significant (Predicate.equalitySign negated false) ++
      .mark .openParen :: tokens)) (.member subject negated values) rest := by
  obtain ⟨shorter, listed⟩ := listed
  cases negated with
  | false =>
    change Reads (Atom.readOf subject (.keyword .inList :: .mark .openParen :: tokens)) _ rest
    rw [Atom.readOf, listed]
    exact ⟨_, rfl⟩
  | true =>
    change Reads (Atom.readOf subject
      (.keyword .not :: .keyword .inList :: .mark .openParen :: tokens)) _ rest
    rw [Atom.readOf, listed]
    exact ⟨_, rfl⟩

/-- An equality with one value reads as a comparison, one with several as membership. -/
theorem stands_alone_equality (column : String) (negated : Bool) {values : List Literal}
    (nonempty : values ≠ []) : StandsAlone (Predicate.equality column negated values)
      (.atom (.membership column negated values)) := by
  intro rest
  match values with
  | [] => exact absurd rfl nonempty
  | [value] =>
    refine reads_predicate (reads_column column _) ?_
    cases negated <;> exact ⟨_, rfl⟩
  | first :: second :: others =>
    have written : significant (Predicate.equality column negated (first :: second :: others)) =
        .identifier column :: (significant (Predicate.equalitySign negated false) ++
          significant (Phrase.parenthesized (Phrase.listed
            ((first :: second :: others).map fun value => [.literal value])))) := by
      simp only [Predicate.equality, significant_append, List.append_assoc]
      rfl
    rw [written, significant_parenthesized, List.cons_append, List.append_assoc,
      List.cons_append, List.append_assoc]
    exact reads_predicate (reads_column column _)
      (reads_membership _ negated (reads_values first (second :: others) rest))

theorem reads_matched (column : String) (caseSensitive : Bool) (said : Phrase) :
    Reads (Subject.read (significant (Predicate.subject column caseSensitive) ++ said))
      (if caseSensitive then .column column else .applied "lower" column) said := by
  cases caseSensitive <;> exact ⟨_, rfl⟩

theorem reads_like (subject : Subject) (negated : Bool) (pattern : Literal) (rest : Phrase) :
    Reads (Atom.readOf subject (significant (if negated then [.keyword .not, .space] else []) ++
      .keyword .like :: .literal pattern :: rest)) (.like subject negated pattern) rest := by
  cases negated <;> exact ⟨_, rfl⟩

/-- One pattern reads as one predicate, whatever it is matched with. -/
theorem stands_alone_match (column : String) (operator : Operator) (caseSensitive : Bool)
    (value : Literal) : StandsAlone (Predicate.patternMatch column operator caseSensitive value)
      (.atom (.matching column operator caseSensitive value)) := by
  intro rest
  rw [Predicate.patternMatch, Predicate.pattern_eq, significant_append, significant_append,
    significant_append, List.append_assoc, List.append_assoc, List.append_assoc]
  exact reads_predicate (reads_matched column caseSensitive _) (reads_like _ _ _ rest)

end Condition

/-! ## Filters -/

namespace Filter
open Condition

variable {names : FieldNames}

/-- What is written for one value under a pattern operator, when it is written at all. -/
theorem match_stands_alone {column : String} {operator : Operator} {value : Literal}
    {caseSensitive : Bool} {phrase : Phrase} (pattern : operator.isPattern = true)
    (made : Predicate.onField column operator [value] caseSensitive = .ok phrase) :
    StandsAlone phrase (.atom (.matching column operator caseSensitive value)) := by
  unfold Predicate.onField at made
  cases absent : value.isNull with
  | true => simp [absent] at made
  | false =>
    simp only [List.all_cons, List.all_nil, absent, Bool.and_true, Bool.false_eq_true, ↓reduceIte,
      pattern, Predicate.patterns, List.filter_cons, Bool.not_false, List.filter_nil, List.map_cons,
      List.map_nil, Predicate.combined, Except.ok.injEq] at made
    exact made ▸ stands_alone_match column operator caseSensitive value

/-- What stands alone is read to its end as one condition. -/
theorem read_of_stands_alone {phrase : Phrase} {condition : Condition}
    (alone : StandsAlone phrase condition) : Condition.read phrase = some condition := by
  have whole := alone []
  rw [List.append_nil] at whole
  obtain ⟨shorter, whole⟩ := reads_last_disjunct (reads_last_conjunct whole (by simp)) (by simp)
  rw [Condition.read, whole]
  rfl

end Filter

end ColumnQuery
