import ColumnQuery.Proofs.Condition.Basic

/-! What a filter says, as a condition: the predicate that each leaf stands for, under the AND, OR
and NOT nodes of the tree itself. Nothing here looks at tokens. -/
namespace ColumnQuery
open Sql

namespace Atom

/-- Membership in a list of values. A list of one value is compared with that value. -/
def membership (column : String) (negated : Bool) : List Literal → Atom
  | [value] => .compare (.column column) (if negated then .notEqual else .equal) value
  | values => .member (.column column) negated values

/-- A column matches the pattern of a value, in lower case when case does not count. -/
def matching (column : String) (operator : Operator) (caseSensitive : Bool) (value : Literal) :
    Atom :=
  .like (if caseSensitive then .column column else .applied "lower" column) operator.isNegated
    (.text (operator.likePattern (value.searched caseSensitive)))

end Atom

namespace Filter

mutual

/-- The condition that a filter stands for. -/
def condition (name : FieldRef → String) : Filter → Condition
  | .compare comparison field value => .atom (.compare (.column (name field)) comparison value)
  | .between field low high => .atom (.between (.column (name field)) low high)
  | .member field values negated => .atom (.membership (name field) negated values)
  | .textMatch kind field value caseSensitive =>
    .atom (.matching (name field) kind.operator caseSensitive value)
  | .all parts => .ofConjuncts (conditions name parts)
  | .any parts => .ofDisjuncts (conditions name parts)
  | .not part => .not (part.condition name)

/-- The conditions that several filters stand for. -/
def conditions (name : FieldRef → String) : List Filter → List Condition
  | [] => []
  | part :: rest => part.condition name :: conditions name rest

end

mutual

/-- The truth value of a filter, given those of the predicates at its leaves. -/
def truth (name : FieldRef → String) (value : Atom → Truth) : Filter → Truth
  | .compare comparison field literal => value (.compare (.column (name field)) comparison literal)
  | .between field low high => value (.between (.column (name field)) low high)
  | .member field values negated => value (.membership (name field) negated values)
  | .textMatch kind field literal caseSensitive =>
    value (.matching (name field) kind.operator caseSensitive literal)
  | .all parts => Truth.all (truths name value parts)
  | .any parts => Truth.any (truths name value parts)
  | .not part => (part.truth name value).not

/-- The truth values of several filters in their order. -/
def truths (name : FieldRef → String) (value : Atom → Truth) : List Filter → List Truth
  | [] => []
  | part :: rest => part.truth name value :: truths name value rest

end

variable {name : FieldRef → String} {value : Atom → Truth}

mutual

/-- A filter is true of a row exactly when the condition it stands for is, and so with the two
other values. -/
theorem condition_truth (filter : Filter) :
    (filter.condition name).truth value = filter.truth name value := by
  cases filter with
  | compare comparison field literal => rfl
  | between field low high => rfl
  | member field values negated => rfl
  | textMatch kind field literal caseSensitive => rfl
  | all parts => rw [condition, truth, Condition.truth_ofConjuncts, conditions_truths parts]
  | any parts => rw [condition, truth, Condition.truth_ofDisjuncts, conditions_truths parts]
  | not part => rw [condition, truth, Condition.truth, condition_truth part]

theorem conditions_truths (parts : List Filter) :
    Condition.truths value (conditions name parts) = truths name value parts := by
  cases parts with
  | nil => rfl
  | cons part rest =>
    rw [conditions, Condition.truths, truths, condition_truth part, conditions_truths rest]

end

end Filter

end ColumnQuery
