import ColumnQuery.Proofs.Condition.Rows

/-! The predicate on a column as one unit of a condition. It is a single predicate or a group in
parentheses, so it can stand behind NOT and between AND and OR and is read there as it is read alone.
The predicates under `!=` and `does-not-contain` are negations of those under `=` and `contains`: of no
row do they say the same, unless neither says anything. -/
namespace ColumnQuery
open Sql

/-! ## Parentheses -/

/-- A parenthesis of either kind. -/
def Sql.Token.IsParenthesis (token : Token) : Prop :=
  token = .mark .openParen ∨ token = .mark .closeParen

/-- AND or OR. -/
def Sql.Token.IsJoiner (token : Token) : Prop :=
  token = .keyword .and ∨ token = .keyword .or

namespace Sql.Phrase

/-- Each parenthesis has its counterpart, and more than blanks stands between the two. -/
inductive IsNested : Phrase → Prop
  | nil : IsNested []
  | token {token : Token} {rest : Phrase} (plain : ¬ token.IsParenthesis) (later : IsNested rest) :
      IsNested (token :: rest)
  | group {inside rest : Phrase} (filled : ∃ token ∈ inside, token ≠ .space)
      (within : IsNested inside) (later : IsNested rest) : IsNested (parenthesized inside ++ rest)

/-- The tokens outside of all parentheses, behind so many that are open. -/
def outside : Nat → Phrase → Phrase
  | _, [] => []
  | depth, .mark .openParen :: rest => outside (depth + 1) rest
  | depth, .mark .closeParen :: rest => outside (depth - 1) rest
  | 0, token :: rest => token :: outside 0 rest
  | depth + 1, _ :: rest => outside (depth + 1) rest

/-- Parentheses are balanced, none are empty, and every AND and OR stands in some. -/
structure IsEnclosed (phrase : Phrase) : Prop where
  nested : phrase.IsNested
  joiners : ∀ token ∈ phrase.outside 0, ¬ token.IsJoiner

variable {first second inside phrase : Phrase}

theorem IsNested.append (nested : first.IsNested) (more : second.IsNested) :
    (first ++ second).IsNested := by
  induction nested with
  | nil => exact more
  | token plain later ih => exact .token plain ih
  | group filled within later _ ih =>
    rw [List.append_assoc]
    exact .group filled within ih

/-- Without parentheses nothing is open. -/
theorem nested_of_plain (plain : ∀ token ∈ phrase, ¬ token.IsParenthesis) : phrase.IsNested := by
  induction phrase with
  | nil => exact .nil
  | cons token rest ih =>
    obtain ⟨head, tail⟩ := List.forall_mem_cons.mp plain
    exact .token head (ih tail)

theorem nested_parenthesized (filled : ∃ token ∈ inside, token ≠ .space) (within : inside.IsNested) :
    (parenthesized inside).IsNested := by
  have alone := IsNested.group filled within .nil
  rwa [List.append_nil] at alone

theorem nested_joined {separator : Token} (plain : ¬ separator.IsParenthesis) {phrases : List Phrase}
    (each : ∀ phrase ∈ phrases, phrase.IsNested) : (joined separator phrases).IsNested := by
  have between : (gap separator).IsNested := by
    apply nested_of_plain
    intro token member
    rw [gap] at member
    split at member <;> simp only [List.mem_cons, List.not_mem_nil, or_false] at member
    · rcases member with rfl | rfl
      · exact plain
      · simp [Token.IsParenthesis]
    · rcases member with rfl | rfl | rfl
      · simp [Token.IsParenthesis]
      · exact plain
      · simp [Token.IsParenthesis]
  induction phrases with
  | nil => exact .nil
  | cons phrase rest ih =>
    obtain ⟨head, tail⟩ := List.forall_mem_cons.mp each
    cases rest with
    | nil => exact head
    | cons next others =>
      rw [joined]
      · exact (head.append between).append (ih tail)
      · simp

/-- What is joined holds the separator as soon as there are two phrases. -/
theorem separator_mem (separator : Token) (head next : Phrase) (others : List Phrase) :
    separator ∈ joined separator (head :: next :: others) := by
  rw [joined]
  · refine List.mem_append_left _ (List.mem_append_right _ ?_)
    rw [gap]
    split <;> simp
  · simp

/-- Nothing in balanced parentheses comes out of those around them. -/
theorem outside_within (nested : inside.IsNested) (depth : Nat) (rest : Phrase) :
    outside (depth + 1) (inside ++ rest) = outside (depth + 1) rest := by
  induction nested generalizing depth rest with
  | nil => rfl
  | @token token more plain later ih =>
    have skipped : outside (depth + 1) (token :: (more ++ rest)) =
        outside (depth + 1) (more ++ rest) := by
      rw [outside]
      · rintro rfl
        exact plain (.inl rfl)
      · rintro rfl
        exact plain (.inr rfl)
    exact skipped.trans (ih depth rest)
  | @group inner more filled within later ihWithin ihLater =>
    have split : parenthesized inner ++ more ++ rest =
        .mark .openParen :: (inner ++ (.mark .closeParen :: (more ++ rest))) := by
      simp [parenthesized]
    rw [split, outside, ihWithin, outside]
    exact ihLater depth rest

/-- Nothing between parentheses stands outside. -/
theorem outside_parenthesized (nested : inside.IsNested) : outside 0 (parenthesized inside) = [] := by
  have split : parenthesized inside = .mark .openParen :: (inside ++ [.mark .closeParen]) := rfl
  rw [split, outside, outside_within nested]
  rfl

theorem mem_of_mem_outside {token : Token} {depth : Nat} (member : token ∈ outside depth phrase) :
    token ∈ phrase := by
  fun_induction outside depth phrase with
  | case1 => exact member
  | case2 depth rest ih => exact .tail _ (ih member)
  | case3 depth rest ih => exact .tail _ (ih member)
  | case4 first rest _ _ ih =>
    rcases List.mem_cons.mp member with rfl | member
    · exact .head _
    · exact .tail _ (ih member)
  | case5 depth first rest _ _ ih => exact .tail _ (ih member)

/-- A balanced phrase without AND and OR is enclosed as it stands. -/
theorem enclosed_of_single (nested : phrase.IsNested)
    (single : ∀ token ∈ phrase, ¬ token.IsJoiner) : phrase.IsEnclosed where
  nested := nested
  joiners token member := single token (mem_of_mem_outside member)

theorem enclosed_parenthesized (filled : ∃ token ∈ inside, token ≠ .space)
    (within : inside.IsNested) : (parenthesized inside).IsEnclosed where
  nested := nested_parenthesized filled within
  joiners := by
    rw [outside_parenthesized within]
    simp

end Sql.Phrase

/-! ## What is written for a column -/

namespace Predicate
open Sql.Phrase

theorem plain_of_listed {token : Token} {literals : List Literal}
    (member : token ∈ Phrase.listed (literals.map fun literal => [.literal literal])) :
    ¬ token.IsParenthesis ∧ ¬ token.IsJoiner := by
  induction literals with
  | nil => cases member
  | cons first rest ih =>
    cases rest with
    | nil =>
      obtain rfl := List.mem_singleton.mp member
      simp [Token.IsParenthesis, Token.IsJoiner]
    | cons second others =>
      have split : Phrase.listed ((first :: second :: others).map fun literal => [.literal literal]) =
          .literal first :: .mark .comma :: .space ::
            Phrase.listed ((second :: others).map fun literal => [.literal literal]) := rfl
      rw [split] at member
      simp only [List.mem_cons] at member
      rcases member with rfl | rfl | rfl | member
      · simp [Token.IsParenthesis, Token.IsJoiner]
      · simp [Token.IsParenthesis, Token.IsJoiner]
      · simp [Token.IsParenthesis, Token.IsJoiner]
      · exact ih member

theorem nested_values (values : List Literal) : ((values? values).getD []).IsNested ∧
    ∀ token ∈ (values? values).getD [], ¬ token.IsJoiner := by
  match values with
  | [] => exact ⟨.nil, by simp [values?]⟩
  | [value] =>
    refine ⟨nested_of_plain ?_, ?_⟩ <;> simp [values?, Token.IsParenthesis, Token.IsJoiner]
  | first :: second :: others =>
    have filled : Token.mark .comma ∈
        Phrase.listed ((first :: second :: others).map fun literal => [.literal literal]) :=
      separator_mem ..
    refine ⟨nested_parenthesized ⟨_, filled, by simp⟩ ?_, ?_⟩
    · exact nested_of_plain fun token member => (plain_of_listed member).1
    · intro token member
      simp only [values?, Option.getD_some, Phrase.parenthesized, List.cons_append, List.nil_append,
        List.mem_cons, List.mem_append, List.not_mem_nil, or_false] at member
      rcases member with rfl | member | rfl
      · simp [Token.IsJoiner]
      · exact (plain_of_listed member).2
      · simp [Token.IsJoiner]

theorem enclosed_equality (column : String) (negated : Bool) (values : List Literal) :
    (equality column negated values).IsEnclosed := by
  obtain ⟨nested, single⟩ := nested_values values
  have before : ∀ token ∈ [.identifier column, .space] ++
      equalitySign negated (values.length == 1) ++ [.space],
      ¬ token.IsParenthesis ∧ ¬ token.IsJoiner := by
    cases negated <;> cases values.length == 1 <;>
      simp [equalitySign, Token.IsParenthesis, Token.IsJoiner]
  apply enclosed_of_single
  · exact (nested_of_plain fun token member => (before token member).1).append nested
  · exact List.forall_mem_append.mpr ⟨fun token member => (before token member).2, single⟩

theorem enclosed_match (column : String) (operator : Operator) (caseSensitive : Bool)
    (value : Literal) : (patternMatch column operator caseSensitive value).IsEnclosed := by
  have named : (subject column caseSensitive).IsNested := by
    cases caseSensitive with
    | true => exact nested_of_plain (by simp [subject, Token.IsParenthesis])
    | false =>
      have name : IsNested [.identifier column] := nested_of_plain (by simp [Token.IsParenthesis])
      have call := nested_parenthesized ⟨_, .head _, by simp⟩ name
      exact .token (by simp [Token.IsParenthesis]) call
  apply enclosed_of_single
  · rw [patternMatch, List.append_assoc, List.append_assoc]
    refine named.append (nested_of_plain ?_)
    cases operator.isNegated <;> simp [Token.IsParenthesis]
  · rw [patternMatch]
    cases caseSensitive <;> cases operator.isNegated <;>
      simp [subject, Phrase.call, Phrase.parenthesized, Token.IsJoiner]

/-- A group of conditions is enclosed: its joiners stand between its parentheses. -/
theorem enclosed_group {joiner : Keyword} {first second : Phrase} {others : List Phrase}
    (each : ∀ phrase ∈ first :: second :: others, phrase.IsNested) :
    (Phrase.parenthesized (Phrase.joined (.keyword joiner) (first :: second :: others))).IsEnclosed := by
  apply enclosed_parenthesized
  · exact ⟨_, separator_mem _ first second others, by simp⟩
  · exact nested_joined (by simp [Token.IsParenthesis]) each

/-- One predicate, or a group of several conditions that stands in parentheses. -/
inductive IsPredicateOrGroup : Phrase → Condition → Prop
  | predicate {phrase : Phrase} (predicate : Atom) : IsPredicateOrGroup phrase (.atom predicate)
  | all {inside : Phrase} {parts : List Condition} (several : 2 ≤ parts.length) :
      IsPredicateOrGroup (Phrase.parenthesized inside) (.all parts)
  | any {inside : Phrase} {parts : List Condition} (several : 2 ≤ parts.length) :
      IsPredicateOrGroup (Phrase.parenthesized inside) (.any parts)

section Shape

variable {column : String} {operator : Operator} {values : List Literal} {caseSensitive : Bool}
  {phrase : Phrase}

/-- How many patterns there are decides whether they are a group. -/
theorem patterns_shape (pattern : operator.isPattern = true)
    (present : values.filter (!·.isNull) ≠ []) :
    (patterns column operator caseSensitive values).IsEnclosed ∧
      IsPredicateOrGroup (patterns column operator caseSensitive values)
        (condition column operator values caseSensitive) := by
  rw [patterns, condition, if_pos pattern]
  generalize values.filter (!·.isNull) = compared at present
  obtain _ | ⟨first, _ | ⟨second, others⟩⟩ := compared
  · exact absurd rfl present
  · refine ⟨enclosed_match column operator caseSensitive first, ?_⟩
    cases operator.isNegated <;> exact .predicate _
  · constructor
    · apply enclosed_group
      rw [← List.map_cons, ← List.map_cons, List.forall_mem_map]
      exact fun value _ => (enclosed_match column operator caseSensitive value).nested
    · cases operator.isNegated with
      | false => exact .any (by simp)
      | true => exact .all (by simp)

/-- Whatever is written for a column is enclosed, and it is one predicate or one group. -/
theorem onField_shape (made : onField column operator values caseSensitive = .ok phrase) :
    phrase.IsEnclosed ∧
      IsPredicateOrGroup phrase (condition column operator values caseSensitive) := by
  rw [onField] at made
  split at made
  · cases made
  · next present =>
    split at made
    · next pattern =>
      cases made
      apply patterns_shape pattern
      intro absent
      exact present (by simpa using List.filter_eq_nil_iff.mp absent)
    · next plain =>
      cases made
      refine ⟨enclosed_equality column operator.isNegated values, ?_⟩
      rw [condition, if_neg plain]
      exact .predicate _

end Shape

end Predicate

/-! ## Units among others -/

namespace Condition

/-- A phrase that is read as one unit wherever it stands, with the condition that it is read as. -/
structure Standalone where
  phrase : Phrase
  condition : Condition
  alone : StandsAlone phrase condition

/-- A unit behind so many NOTs. -/
structure Operand where
  negations : Nat
  unit : Standalone

/-- The tokens of an operand. -/
def Operand.phrase (operand : Operand) : Phrase :=
  Nat.repeat ([.keyword .not, .space] ++ ·) operand.negations operand.unit.phrase

/-- What an operand says. -/
def Operand.condition (operand : Operand) : Condition :=
  Nat.repeat .not operand.negations operand.unit.condition

/-- Operands with AND between them. -/
abbrev Chain := List Operand

/-- The tokens of a chain. -/
def Chain.phrase (chain : Chain) : Phrase :=
  Phrase.joined (.keyword .and) (chain.map Operand.phrase)

/-- Chains with OR between them, and no parentheses but those of the units. -/
abbrev Arrangement := List Chain

/-- The tokens of an arrangement. -/
def Arrangement.phrase (arrangement : Arrangement) : Phrase :=
  Phrase.joined (.keyword .or) (arrangement.map Chain.phrase)

/-- What an arrangement says: NOT binds before AND, and AND before OR. -/
def Arrangement.condition (arrangement : Arrangement) : Condition :=
  .ofDisjuncts (arrangement.map fun chain => .ofConjuncts (chain.map Operand.condition))

theorem operand_stands_alone (operand : Operand) :
    StandsAlone operand.phrase operand.condition := by
  obtain ⟨negations, unit⟩ := operand
  induction negations with
  | zero => exact unit.alone
  | succ negations ih => exact stands_alone_not ih

/-- A chain of operands is read as their conjuncts. -/
theorem reads_chain {chain : Chain} {rest : Phrase} (nonempty : chain ≠ [])
    (ended : rest.head? ≠ some (.keyword .and)) :
    Reads (readConjuncts (significant chain.phrase ++ rest)) (chain.map Operand.condition) rest := by
  apply reads_joined_conjuncts
  · rw [List.forall₂_map_left_iff, List.forall₂_map_right_iff, List.forall₂_same]
    exact fun operand _ => operand_stands_alone operand
  · exact mt List.map_eq_nil_iff.mp nonempty
  · exact ended

/-- However units are arranged, each is read as the unit that it is. -/
theorem arrangement_reads {arrangement : Arrangement} (nonempty : arrangement ≠ [])
    (each : ∀ chain ∈ arrangement, chain ≠ []) :
    Condition.read arrangement.phrase = some arrangement.condition := by
  have reads : Reads (readDisjuncts (significant arrangement.phrase))
      (arrangement.map fun chain => .ofConjuncts (chain.map Operand.condition)) [] := by
    induction arrangement with
    | nil => exact absurd rfl nonempty
    | cons chain rest ih =>
      obtain ⟨head, tail⟩ := List.forall_mem_cons.mp each
      cases rest with
      | nil =>
        have last : Reads (readConjuncts (significant chain.phrase ++ []))
            (chain.map Operand.condition) [] := reads_chain head (by simp)
        rw [List.append_nil] at last
        exact reads_last_disjunct last (by simp)
      | cons next others =>
        rw [Arrangement.phrase, List.map_cons, List.map_cons, significant_joined]
        refine reads_disjunct (reads_chain head (by simp)) ?_
        exact ih (List.cons_ne_nil _ _) tail
  obtain ⟨shorter, reads⟩ := reads
  rw [Condition.read, reads]
  rfl

end Condition

/-! ## Negation -/

/-- The operator that asks for the rows that another does not. -/
def Operator.opposite? : Operator → Option Operator
  | .equal => some .notEqual
  | .contains => some .doesNotContain
  | _ => none

namespace Predicate
open Condition

/-- Of every row, opposite operators say the opposite about the same values: where one is unknown, so is
the other. -/
theorem opposite_truth {operator opposite : Operator} (opposed : opposite ∈ operator.opposite?)
    (row : Row) (column : String) (values : List Literal) (caseSensitive : Bool) :
    (condition column opposite values caseSensitive).truth row.truth =
      ((condition column operator values caseSensitive).truth row.truth).not := by
  rw [condition_truth, condition_truth]
  cases operator with
  | equal =>
    cases opposed
    exact rfl
  | contains =>
    cases opposed
    exact rfl
  | _ => cases opposed

/-- Where there is a value to compare with, what is written for a column is one predicate or one group in
parentheses. Whatever stands around it without parentheses of its own, NOTs before it and other units
behind AND and OR, the whole is read with the unit in its place. And for an operator with an opposite,
what is written under the opposite for the same values is the negation of what is written here. -/
theorem predicate_is_unit_and_negates {column : String} {operator : Operator}
    {values : List Literal} {caseSensitive : Bool}
    (present : ∃ value ∈ values, value.isNull = false) : ∃ unit : Standalone,
      onField column operator values caseSensitive = .ok unit.phrase ∧ unit.phrase.IsEnclosed ∧
      IsPredicateOrGroup unit.phrase unit.condition ∧
      Condition.read unit.phrase = some unit.condition ∧
      (∀ (before after : Arrangement) (left right : Chain) (negations : Nat),
        (∀ chain ∈ before ++ after, chain ≠ []) →
        let arrangement : Arrangement := before ++ (left ++ ⟨negations, unit⟩ :: right) :: after
        Condition.read arrangement.phrase = some arrangement.condition) ∧
      ∀ opposite ∈ operator.opposite?, ∃ other : Standalone,
        onField column opposite values caseSensitive = .ok other.phrase ∧
        Condition.read other.phrase = some other.condition ∧
        ∀ row : Row, other.condition.truth row.truth = (unit.condition.truth row.truth).not := by
  have written (operator : Operator) : ∃ unit : Standalone,
      onField column operator values caseSensitive = .ok unit.phrase ∧
        unit.condition = condition column operator values caseSensitive := by
    obtain ⟨phrase, made, alone⟩ := onField_stands_alone column operator caseSensitive present
    exact ⟨⟨phrase, _, alone⟩, made, rfl⟩
  obtain ⟨unit, made, said⟩ := written operator
  obtain ⟨enclosed, shape⟩ := onField_shape made
  refine ⟨unit, made, enclosed, said ▸ shape, Filter.read_of_stands_alone unit.alone, ?_, ?_⟩
  · intro before after left right negations each
    apply arrangement_reads
    · simp
    · intro chain member
      rcases List.mem_append.mp member with member | member
      · exact each chain (List.mem_append_left _ member)
      · rcases List.mem_cons.mp member with rfl | member
        · simp
        · exact each chain (List.mem_append_right _ member)
  · intro opposite opposed
    obtain ⟨other, otherMade, otherSaid⟩ := written opposite
    refine ⟨other, otherMade, Filter.read_of_stands_alone other.alone, fun row => ?_⟩
    rw [said, otherSaid]
    exact opposite_truth opposed row column values caseSensitive

/-- A group of two patterns, from which an absent value was left out: behind NOT it is one unit, and its
opposite is a group under AND. -/
theorem two_patterns_are_unit_and_negate :
    let values : List Literal := [.text "a", .null, .text "b"]
    (∃ value ∈ values, value.isNull = false) ∧ ∃ unit other : Standalone,
      onField "name" .contains values true = .ok unit.phrase ∧
      onField "name" .doesNotContain values true = .ok other.phrase ∧
      Phrase.text unit.phrase = "(\"name\" LIKE '%a%' OR \"name\" LIKE '%b%')" ∧
      Phrase.text other.phrase = "(\"name\" NOT LIKE '%a%' AND \"name\" NOT LIKE '%b%')" ∧
      Condition.read ([.keyword .not, .space] ++ unit.phrase) = some (.not unit.condition) ∧
      ∀ row : Row, other.condition.truth row.truth = (unit.condition.truth row.truth).not := by
  intro values
  have present : ∃ value ∈ values, value.isNull = false := ⟨.text "a", .head _, rfl⟩
  obtain ⟨unit, made, -, -, -, among, negates⟩ :=
    @predicate_is_unit_and_negates "name" .contains values true present
  obtain ⟨other, otherMade, -, opposed⟩ := negates .doesNotContain rfl
  refine ⟨present, unit, other, made, otherMade, ?_, ?_, ?_, opposed⟩
  · rw [← Except.ok.inj made]
    decide
  · rw [← Except.ok.inj otherMade]
    decide
  · exact among [] [] [] [] 1 (by simp)

end Predicate

end ColumnQuery
