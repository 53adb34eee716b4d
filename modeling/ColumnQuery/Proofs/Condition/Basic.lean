import ColumnQuery.Query.Filter

/-! The conditions that a WHERE clause is read as: predicates on columns under AND, OR and NOT. A
predicate is true, false or unknown of a row, and a condition gets its truth value from those of
its predicates by the rules of three-valued logic. -/
namespace ColumnQuery
open Sql

/-- What a predicate is said of: a column, or a function of a column. -/
inductive Subject
  | column (name : String)
  | applied (function column : String)
deriving DecidableEq

/-- A predicate that the grammar of conditions does not take apart any further. -/
inductive Atom
  | compare (subject : Subject) (comparison : Comparison) (value : Literal)
  | between (subject : Subject) (low high : Literal)
  | member (subject : Subject) (negated : Bool) (values : List Literal)
  | like (subject : Subject) (negated : Bool) (pattern : Literal)
deriving DecidableEq

/-- What a pattern searches for. -/
def Sql.Literal.searched (caseSensitive : Bool) (value : Literal) : String :=
  if caseSensitive then value.plainText else Text.lowercase value.plainText

/-- The pattern that is matched where a text stands at the start of a column, at its end, or anywhere. -/
def Operator.likePattern (operator : Operator) (text : String) : String :=
  match operator with
  | .startsWith => text ++ "%"
  | .endsWith => "%" ++ text
  | .contains | .doesNotContain => "%" ++ text ++ "%"
  | .equal | .notEqual => text

/-- What is written as a pattern is the pattern of what is searched for. -/
theorem Predicate.pattern_eq (operator : Operator) (caseSensitive : Bool) (value : Literal) :
    pattern operator caseSensitive value = operator.likePattern (value.searched caseSensitive) := by
  cases operator <;> simp [pattern, Operator.wildcards, Operator.likePattern, Literal.searched]

/-- A condition. Neighbours under one AND or OR are parts of one node, so that `a AND b AND c` has
three parts, and `(a AND b) AND c` has two. -/
inductive Condition
  | atom (predicate : Atom)
  | all (parts : List Condition)
  | any (parts : List Condition)
  | not (part : Condition)

/-- The truth values of three-valued logic. -/
inductive Truth
  | fails
  | unknown
  | holds
deriving DecidableEq

namespace Truth

/-- Swaps the two definite values. -/
def not : Truth → Truth
  | .fails => .holds
  | .unknown => .unknown
  | .holds => .fails

/-- The lesser of two values. -/
def and : Truth → Truth → Truth
  | .fails, _ => .fails
  | .holds, second => second
  | .unknown, .fails => .fails
  | .unknown, _ => .unknown

/-- The greater of two values. -/
def or : Truth → Truth → Truth
  | .holds, _ => .holds
  | .fails, second => second
  | .unknown, .holds => .holds
  | .unknown, _ => .unknown

/-- All of several values, from the left. -/
def all (values : List Truth) : Truth :=
  values.foldr and .holds

/-- Any of several values, from the left. -/
def any (values : List Truth) : Truth :=
  values.foldr or .fails

theorem and_holds (value : Truth) : value.and .holds = value := by
  cases value <;> rfl

theorem or_fails (value : Truth) : value.or .fails = value := by
  cases value <;> rfl

/-- The conjunction of one value is that value. -/
theorem all_singleton (value : Truth) : all [value] = value :=
  and_holds value

theorem any_singleton (value : Truth) : any [value] = value :=
  or_fails value

end Truth

namespace Condition

/-- Parts joined by AND. One part alone needs no node. -/
def ofConjuncts : List Condition → Condition
  | [part] => part
  | parts => .all parts

/-- Parts joined by OR. One part alone needs no node. -/
def ofDisjuncts : List Condition → Condition
  | [part] => part
  | parts => .any parts

mutual

/-- The truth value of a condition, given those of its predicates. -/
def truth (value : Atom → Truth) : Condition → Truth
  | .atom predicate => value predicate
  | .all parts => Truth.all (truths value parts)
  | .any parts => Truth.any (truths value parts)
  | .not part => (part.truth value).not

/-- The truth values of several conditions in their order. -/
def truths (value : Atom → Truth) : List Condition → List Truth
  | [] => []
  | part :: rest => part.truth value :: truths value rest

end

/-- Leaving out the node around one part does not change what is true. -/
theorem truth_ofConjuncts (value : Atom → Truth) (parts : List Condition) :
    (ofConjuncts parts).truth value = Truth.all (truths value parts) := by
  match parts with
  | [] => simp only [ofConjuncts, truth]
  | [part] => simp only [ofConjuncts, truths, Truth.all_singleton]
  | first :: second :: rest => simp only [ofConjuncts, truth]

theorem truth_ofDisjuncts (value : Atom → Truth) (parts : List Condition) :
    (ofDisjuncts parts).truth value = Truth.any (truths value parts) := by
  match parts with
  | [] => simp only [ofDisjuncts, truth]
  | [part] => simp only [ofDisjuncts, truths, Truth.any_singleton]
  | first :: second :: rest => simp only [ofDisjuncts, truth]

end Condition

end ColumnQuery
