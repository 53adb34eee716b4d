import ColumnQuery.Proofs.Condition.Basic

/-! The grammar of conditions, as a reader of tokens with one function for each level. OR binds
weaker than AND, AND weaker than NOT, and NOT weaker than the predicates. The AND of a BETWEEN
belongs to the predicate, and so does a NOT before IN or LIKE. Parentheses override all of this.

After the levels come the productions: what each level makes of tokens when the levels below it
have read their share. -/
namespace ColumnQuery
open Sql

/-- What is left of some tokens when something at their start was read. -/
abbrev Rest (tokens : Phrase) := { rest : Phrase // rest.length < tokens.length }

/-- What is left of some tokens is also left of more of them. -/
def Rest.widen {tokens more : Phrase} (rest : Rest tokens) (within : tokens.length ≤ more.length) :
    Rest more :=
  ⟨rest.1, Nat.lt_of_lt_of_le rest.2 within⟩

/-- The comparison that a mark stands for. -/
def Comparison.ofMark? : Mark → Option Comparison
  | .equal => some .equal
  | .notEqual => some .notEqual
  | .greater => some .greater
  | .less => some .less
  | .greaterOrEqual => some .greaterOrEqual
  | .lessOrEqual => some .lessOrEqual
  | _ => none

/-- Reads a column, or a function of a column. -/
def Subject.read : (tokens : Phrase) → Option (Subject × Rest tokens)
  | .identifier name :: rest => some (.column name, ⟨rest, by simp⟩)
  | .function function :: .mark .openParen :: .identifier name :: .mark .closeParen :: rest =>
    some (.applied function name, ⟨rest, by simp only [List.length_cons]; omega⟩)
  | _ => none

namespace Atom

/-- Reads literals with commas between them, up to the parenthesis that closes their list. -/
def readValues : (tokens : Phrase) → Option (List Literal × Rest tokens)
  | .literal value :: .mark .closeParen :: rest =>
    some ([value], ⟨rest, by simp only [List.length_cons]; omega⟩)
  | .literal value :: .mark .comma :: rest =>
    (readValues rest).map fun (values, after) =>
      (value :: values, after.widen (by simp only [List.length_cons]; omega))
  | _ => none

/-- Reads what is said of a subject. -/
def readOf (subject : Subject) : (tokens : Phrase) → Option (Atom × Rest tokens)
  | .mark sign :: .literal value :: rest =>
    (Comparison.ofMark? sign).map fun comparison =>
      (.compare subject comparison value, ⟨rest, by simp only [List.length_cons]; omega⟩)
  | .keyword .between :: .literal low :: .keyword .and :: .literal high :: rest =>
    some (.between subject low high, ⟨rest, by simp only [List.length_cons]; omega⟩)
  | .keyword .inList :: .mark .openParen :: rest =>
    (readValues rest).map fun (values, after) =>
      (.member subject false values, after.widen (by simp only [List.length_cons]; omega))
  | .keyword .not :: .keyword .inList :: .mark .openParen :: rest =>
    (readValues rest).map fun (values, after) =>
      (.member subject true values, after.widen (by simp only [List.length_cons]; omega))
  | .keyword .like :: .literal pattern :: rest =>
    some (.like subject false pattern, ⟨rest, by simp only [List.length_cons]; omega⟩)
  | .keyword .not :: .keyword .like :: .literal pattern :: rest =>
    some (.like subject true pattern, ⟨rest, by simp only [List.length_cons]; omega⟩)
  | _ => none

/-- Reads a predicate: its subject and what is said of it. -/
def read (tokens : Phrase) : Option (Atom × Rest tokens) :=
  match Subject.read tokens with
  | none => none
  | some (subject, after) =>
    (readOf subject after.1).map fun (predicate, rest) =>
      (predicate, rest.widen (Nat.le_of_lt after.2))

end Atom

namespace Condition

mutual

/-- Reads a condition that neighbours cannot regroup: a negation, a group in parentheses, or a
predicate. -/
def readNegation (tokens : Phrase) : Option (Condition × Rest tokens) :=
  match tokens with
  | .keyword .not :: rest =>
    (readNegation rest).map fun (part, after) => (.not part, after.widen (Nat.le_succ _))
  | .mark .openParen :: rest =>
    match readDisjuncts rest with
    | some (parts, ⟨.mark .closeParen :: after, shorter⟩) =>
      some (ofDisjuncts parts, ⟨after, by simp at shorter ⊢; omega⟩)
    | _ => none
  | tokens => (Atom.read tokens).map fun (predicate, after) => (atom predicate, after)
termination_by (tokens.length, 0)

/-- Reads one or more conditions with AND between them. -/
def readConjuncts (tokens : Phrase) : Option (List Condition × Rest tokens) :=
  match readNegation tokens with
  | none => none
  | some (first, ⟨.keyword .and :: rest, shorter⟩) =>
    (readConjuncts rest).map fun (others, after) =>
      (first :: others, after.widen (by simp at shorter; omega))
  | some (first, after) => some ([first], after)
termination_by (tokens.length, 1)
decreasing_by
  · exact .right _ (by decide)
  · exact .left _ _ (by simp at shorter; omega)

/-- Reads one or more alternatives with OR between them, each of which may hold ANDs. -/
def readDisjuncts (tokens : Phrase) : Option (List Condition × Rest tokens) :=
  match readConjuncts tokens with
  | none => none
  | some (first, ⟨.keyword .or :: rest, shorter⟩) =>
    (readDisjuncts rest).map fun (others, after) =>
      (ofConjuncts first :: others, after.widen (by simp at shorter; omega))
  | some (first, after) => some ([ofConjuncts first], after)
termination_by (tokens.length, 2)
decreasing_by
  · exact .right _ (by decide)
  · exact .left _ _ (by simp at shorter; omega)

end

/-- The tokens that count: spaces only keep the others apart. -/
def significant (phrase : Phrase) : Phrase :=
  phrase.filter (· ≠ .space)

/-- Reads a whole phrase as one condition. -/
def read (phrase : Phrase) : Option Condition :=
  match readDisjuncts (significant phrase) with
  | some (parts, ⟨[], _⟩) => some (ofDisjuncts parts)
  | _ => none

example :
    let said (name : String) : Phrase := [.identifier name, .mark .equal, .literal .null]
    let part (name : String) : Condition := .atom (.compare (.column name) .equal .null)
    read (said "a" ++ [.keyword .or, .keyword .not] ++ said "b" ++ [.keyword .and] ++ said "c") =
      some (.any [part "a", .all [.not (part "b"), part "c"]]) := by
  cbv

theorem significant_append (first second : Phrase) :
    significant (first ++ second) = significant first ++ significant second :=
  List.filter_append ..

/-- A reader ended with this value and left these tokens. -/
def Reads {α : Type} {tokens : Phrase} (outcome : Option (α × Rest tokens)) (value : α)
    (rest : Phrase) : Prop :=
  ∃ shorter, outcome = some (value, ⟨rest, shorter⟩)

section Productions

variable {tokens more rest : Phrase} {part : Condition} {parts others : List Condition}

/-- A NOT takes the negation level that follows it, and no AND or OR behind that. -/
theorem reads_not (inner : Reads (readNegation tokens) part rest) :
    Reads (readNegation (.keyword .not :: tokens)) (.not part) rest := by
  obtain ⟨shorter, inner⟩ := inner
  rw [readNegation, inner]
  exact ⟨_, rfl⟩

/-- Parentheses make one unit of whatever stands between them. -/
theorem reads_group (inner : Reads (readDisjuncts tokens) parts (.mark .closeParen :: rest)) :
    Reads (readNegation (.mark .openParen :: tokens)) (ofDisjuncts parts) rest := by
  obtain ⟨shorter, inner⟩ := inner
  rw [readNegation, inner]
  exact ⟨_, rfl⟩

/-- A conjunct is read, an AND follows, and the other conjuncts are read behind it. -/
theorem reads_conjunct (first : Reads (readNegation tokens) part (.keyword .and :: more))
    (following : Reads (readConjuncts more) others rest) :
    Reads (readConjuncts tokens) (part :: others) rest := by
  obtain ⟨shorter, first⟩ := first
  obtain ⟨shorterMore, following⟩ := following
  rw [readConjuncts, first]
  simp only [following]
  exact ⟨_, rfl⟩

theorem reads_last_conjunct (last : Reads (readNegation tokens) part rest)
    (ended : rest.head? ≠ some (.keyword .and)) : Reads (readConjuncts tokens) [part] rest := by
  obtain ⟨shorter, last⟩ := last
  rw [readConjuncts, last]
  refine ⟨shorter, ?_⟩
  split <;> simp_all

theorem reads_disjunct (first : Reads (readConjuncts tokens) parts (.keyword .or :: more))
    (following : Reads (readDisjuncts more) others rest) :
    Reads (readDisjuncts tokens) (ofConjuncts parts :: others) rest := by
  obtain ⟨shorter, first⟩ := first
  obtain ⟨shorterMore, following⟩ := following
  rw [readDisjuncts, first]
  simp only [following]
  exact ⟨_, rfl⟩

/-- A disjunct is the last one where no OR follows. -/
theorem reads_last_disjunct (last : Reads (readConjuncts tokens) parts rest)
    (ended : rest.head? ≠ some (.keyword .or)) :
    Reads (readDisjuncts tokens) [ofConjuncts parts] rest := by
  obtain ⟨shorter, last⟩ := last
  rw [readDisjuncts, last]
  refine ⟨shorter, ?_⟩
  split <;> simp_all

end Productions

end Condition

end ColumnQuery
