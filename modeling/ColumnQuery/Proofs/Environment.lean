import ColumnQuery.Environment
import ColumnQuery.Proofs.Text.Strip

/-! References to variables, read in one pass. What a reference is, is said here by its spelling, and a
text is read position by position: a reference if there is one, and otherwise one character. References are
replaced by a search for the next one, text between them being spliced in, and the result is what
the reading says. No value is ever read. -/
namespace ColumnQuery.Environment
open Text

/-! ## Spelling -/

/-- What a name of a variable begins with. -/
def IsNameStart (c : Char) : Prop :=
  ('A' ≤ c ∧ c ≤ 'Z') ∨ ('a' ≤ c ∧ c ≤ 'z') ∨ c = '_'

/-- What a name of a variable goes on with. -/
def IsNamePart (c : Char) : Prop :=
  IsNameStart c ∨ ('0' ≤ c ∧ c ≤ '9')

/-- A name of a variable. -/
def IsName (name : List Char) : Prop :=
  ∃ first more, name = first :: more ∧ IsNameStart first ∧ ∀ c ∈ more, IsNamePart c

/-- A text begins with a reference to a name, and this is what follows it. A name without braces goes on as
far as it can. -/
inductive Refers : List Char → List Char → List Char → Prop
  | braced {name rest : List Char} (named : IsName name) :
      Refers ('$' :: '\x7b' :: (name ++ '\x7d' :: rest)) name rest
  | bare {name rest : List Char} (named : IsName name)
      (longest : ∀ c, rest.head? = some c → ¬ IsNamePart c) : Refers ('$' :: (name ++ rest)) name rest

/-- What stands at one position of a text. -/
inductive Piece
  | character (c : Char)
  | reference (name : String)
deriving DecidableEq

/-- What a piece is replaced by: a character by itself, and a reference by the value of its variable. -/
def Piece.replacement (env : Environment) : Piece → List Char
  | .character c => [c]
  | .reference name => ((env name).map String.toList).getD []

/-- A text is read from left to right. At each position there is a reference, or else a character that
stands for itself. -/
inductive Reads : List Char → List Piece → Prop
  | done : Reads [] []
  | reference {text name rest : List Char} {pieces : List Piece} (refers : Refers text name rest)
      (further : Reads rest pieces) : Reads text (.reference (String.ofList name) :: pieces)
  | character {c : Char} {rest : List Char} {pieces : List Piece}
      (plain : ∀ name after, ¬ Refers (c :: rest) name after) (further : Reads rest pieces) :
      Reads (c :: rest) (.character c :: pieces)

/-! ## Reading one reference -/

/-- The characters that are read at the start of a name are those that are spelled there. -/
theorem isNameStart_iff {c : Char} : isNameStart c = true ↔ IsNameStart c := by
  have upper : c.isUpper = true ↔ 'A' ≤ c ∧ c ≤ 'Z' := decide_eq_true_iff
  have lower : c.isLower = true ↔ 'a' ≤ c ∧ c ≤ 'z' :=
    (Bool.and_eq_true_iff).trans (and_congr decide_eq_true_iff decide_eq_true_iff)
  have letter : c.isAlpha = (c.isUpper || c.isLower) := rfl
  rw [isNameStart, letter, Bool.or_eq_true, Bool.or_eq_true, upper, lower, beq_iff_eq, or_assoc,
    IsNameStart]

theorem isNamePart_iff {c : Char} : isNamePart c = true ↔ IsNamePart c := by
  have order : isNamePart c = (isNameStart c || c.isDigit) := by
    simp only [isNamePart, isNameStart, Char.isAlphanum, Bool.or_assoc, Bool.or_comm c.isDigit]
  have digit : c.isDigit = true ↔ '0' ≤ c ∧ c ≤ '9' := by
    simp only [Char.isDigit, Bool.and_eq_true, decide_eq_true_eq]
    rfl
  rw [order, Bool.or_eq_true, isNameStart_iff, digit, IsNamePart]

variable {text name rest : List Char}

theorem after?_iff {c : Char} :
    (∃ short, Shorter.after? c text = some short ∧ short.1 = rest) ↔ text = c :: rest := by
  cases text with
  | nil => simp [Shorter.after?]
  | cons first more =>
    by_cases same : first = c
    · simp [Shorter.after?, same]
    · simp [Shorter.after?, same]

/-- A text begins with the longest name exactly when what follows cannot go on with it. -/
theorem name?_iff : (∃ short, name? text = some (name, short) ∧ short.1 = rest) ↔
    IsName name ∧ text = name ++ rest ∧ ∀ c, rest.head? = some c → ¬ IsNamePart c := by
  constructor
  · rintro ⟨short, found, rfl⟩
    cases text with
    | nil => cases found
    | cons first more =>
      rw [name?] at found
      split at found
      · next starts =>
        cases found
        refine ⟨⟨first, _, rfl, isNameStart_iff.mp starts, ?_⟩, ?_, ?_⟩
        · intro c member
          exact isNamePart_iff.mp (List.mem_takeWhile_imp member)
        · exact congrArg (first :: ·) List.takeWhile_append_dropWhile.symm
        · intro c next part
          have stopped := head_of_dropWhile (p := isNamePart) more next
          rw [isNamePart_iff.mpr part] at stopped
          cases stopped
      · cases found
  · rintro ⟨⟨first, more, rfl, starts, parts⟩, rfl, stops⟩
    obtain ⟨taken, left⟩ := stretch_ends (p := isNamePart)
      (fun c member => isNamePart_iff.mpr (parts c member))
      (fun c next => Bool.eq_false_iff.mpr fun part => stops c next (isNamePart_iff.mp part))
    refine ⟨Shorter.ofTail (Remainder.skip isNamePart (more ++ rest)), ?_, left⟩
    change (if isNameStart first then some (first :: (more ++ rest).takeWhile isNamePart,
      Shorter.ofTail (Remainder.skip isNamePart (more ++ rest))) else none) = _
    rw [if_pos (isNameStart_iff.mpr starts), taken]

theorem brace_is_no_part : ¬ IsNamePart '\x7d' := by
  rw [← isNamePart_iff]
  decide

/-- A name is read between braces exactly when it stands between them, and nothing else. -/
theorem braced?_iff : (∃ short, braced? text = some (name, short) ∧ short.1 = rest) ↔
    IsName name ∧ text = '\x7b' :: (name ++ '\x7d' :: rest) := by
  constructor
  · rintro ⟨short, found, rfl⟩
    obtain ⟨opened, first, found⟩ := Option.bind_eq_some_iff.mp found
    obtain ⟨⟨inner, after⟩, within, found⟩ := Option.bind_eq_some_iff.mp found
    obtain ⟨closed, last, found⟩ := Option.bind_eq_some_iff.mp found
    cases found
    obtain ⟨named, whole, -⟩ := name?_iff.mp ⟨after, within, rfl⟩
    have ends := after?_iff.mp ⟨closed, last, rfl⟩
    refine ⟨named, ?_⟩
    calc text = '\x7b' :: opened.1 := after?_iff.mp ⟨opened, first, rfl⟩
      _ = '\x7b' :: (name ++ after.1) := congrArg ('\x7b' :: ·) whole
      _ = '\x7b' :: (name ++ '\x7d' :: closed.1) := congrArg ('\x7b' :: name ++ ·) ends
  · rintro ⟨named, whole⟩
    have stops : ∀ c, ('\x7d' :: rest).head? = some c → ¬ IsNamePart c := by
      rintro c ⟨⟩
      exact brace_is_no_part
    obtain ⟨opened, first, inside⟩ := after?_iff.mpr whole
    obtain ⟨after, within, ends⟩ := name?_iff.mpr ⟨named, inside, stops⟩
    obtain ⟨closed, last, left⟩ := after?_iff.mpr ends
    refine ⟨opened.transShorter (after.transShorter closed), ?_, left⟩
    simp only [braced?, first, within, last, Option.bind_eq_bind, Option.bind_some, Option.pure_def]

/-- A brace is no beginning of a name, so that at most one of the two spellings is there. -/
theorem braced?_of_name (named : IsName name) : braced? (name ++ rest) = none := by
  obtain ⟨first, more, rfl, starts, -⟩ := named
  have other : first ≠ '\x7b' := by
    rintro rfl
    exact absurd (isNameStart_iff.mpr starts) (by decide)
  cases found : braced? (first :: more ++ rest) with
  | none => rfl
  | some pair =>
    obtain ⟨-, opened⟩ := braced?_iff.mp ⟨pair.2, found, rfl⟩
    exact absurd (List.cons.inj opened).1 other

/-- A reference is found exactly where one is spelled. -/
theorem reference?_iff :
    (∃ short, reference? text = some (name, short) ∧ short.1 = rest) ↔ Refers text name rest := by
  constructor
  · rintro ⟨short, found, rfl⟩
    obtain ⟨dollar, first, found⟩ := Option.bind_eq_some_iff.mp found
    obtain ⟨⟨inner, after⟩, within, found⟩ := Option.bind_eq_some_iff.mp found
    cases found
    have begins : text = '$' :: dollar.1 := after?_iff.mp ⟨dollar, first, rfl⟩
    apply (congrArg (Refers · name after.1) begins).mpr
    cases braces : braced? dollar.1 with
    | some pair =>
      rw [braces] at within
      cases within
      obtain ⟨named, whole⟩ := braced?_iff.mp ⟨_, braces, rfl⟩
      apply (congrArg (fun opened => Refers ('$' :: opened) name after.1) whole).mpr
      exact .braced named
    | none =>
      rw [braces] at within
      obtain ⟨named, whole, longest⟩ := name?_iff.mp ⟨_, within, rfl⟩
      apply (congrArg (fun opened => Refers ('$' :: opened) name after.1) whole).mpr
      exact .bare named longest
  · intro refers
    cases refers with
    | braced named =>
      obtain ⟨dollar, first, left⟩ := (after?_iff (c := '$')).mpr rfl
      obtain ⟨after, within, ends⟩ := braced?_iff.mpr ⟨named, left⟩
      refine ⟨dollar.transShorter after, ?_, ends⟩
      simp only [reference?, first, within, Option.bind_eq_bind, Option.bind_some, Option.some_or,
        Option.pure_def]
    | bare named longest =>
      obtain ⟨dollar, first, left⟩ := (after?_iff (c := '$')).mpr rfl
      obtain ⟨after, within, ends⟩ := name?_iff.mpr ⟨named, left, longest⟩
      have unbraced : braced? dollar.1 = none := by
        rw [left]
        exact braced?_of_name named
      refine ⟨dollar.transShorter after, ?_, ends⟩
      simp only [reference?, first, unbraced, within, Option.bind_eq_bind, Option.bind_some,
        Option.none_or, Option.pure_def]

/-- A text begins with one reference at most. -/
theorem refers_unique {other after : List Char} (one : Refers text name rest)
    (two : Refers text other after) : name = other ∧ rest = after := by
  obtain ⟨short, found, rfl⟩ := reference?_iff.mpr one
  obtain ⟨again, same, rfl⟩ := reference?_iff.mpr two
  rw [found] at same
  cases same
  exact ⟨rfl, rfl⟩

theorem plain_of_none (absent : reference? text = none) : ∀ name rest, ¬ Refers text name rest := by
  intro name rest refers
  obtain ⟨short, found, -⟩ := reference?_iff.mpr refers
  rw [absent] at found
  cases found

/-! ## Reading a text -/

/-- There is one way at most to read a text. -/
theorem reads_unique {pieces others : List Piece} (one : Reads text pieces) (two : Reads text others) :
    pieces = others := by
  induction one generalizing others with
  | done =>
    cases two with
    | done => rfl
    | reference refers _ => cases refers
  | reference refers _ ih =>
    cases two with
    | done => cases refers
    | reference again further =>
      obtain ⟨rfl, rfl⟩ := refers_unique refers again
      rw [ih further]
    | character plain _ => exact absurd refers (plain _ _)
  | character plain _ ih =>
    cases two with
    | reference refers _ => exact absurd refers (plain _ _)
    | character _ further => rw [ih further]

/-- A text in which no reference is found is read as its characters. -/
theorem reads_of_none (absent : firstReference? text = none) :
    Reads text (text.map .character) := by
  induction text with
  | nil => exact .done
  | cons c tail ih =>
    rw [firstReference?] at absent
    cases here : reference? (c :: tail) with
    | some pair => simp [here] at absent
    | none =>
      simp only [here, Option.map_eq_none_iff] at absent
      exact .character (plain_of_none here) (ih absent)

/-- Before the first reference there are characters only. -/
theorem reads_of_first {before : List Char} {short : Shorter text} {pieces : List Piece}
    (found : firstReference? text = some (before, name, short)) (further : Reads short.1 pieces) :
    Reads text (before.map .character ++ .reference (String.ofList name) :: pieces) := by
  induction text generalizing before with
  | nil =>
    rw [firstReference?] at found
    cases here : reference? ([] : List Char) with
    | some pair => cases (reference?_iff.mp ⟨pair.2, here, rfl⟩)
    | none => simp [here] at found
  | cons c tail ih =>
    rw [firstReference?] at found
    cases here : reference? (c :: tail) with
    | some pair =>
      simp only [here, Option.some.injEq, Prod.mk.injEq] at found
      obtain ⟨rfl, rfl, rfl⟩ := found
      exact .reference (reference?_iff.mp ⟨pair.2, here, rfl⟩) further
    | none =>
      simp only [here, Option.map_eq_some_iff] at found
      obtain ⟨⟨passed, inner, later⟩, found, same⟩ := found
      cases same
      exact .character (plain_of_none here) (ih found further)

/-! ## Replacing while reading -/

/-- Replaces the pieces of a text in their order, up to a variable that there is none of. -/
def replaced (env : Environment) : List Piece → Except String (List Char)
  | [] => .ok []
  | .character c :: rest => (replaced env rest).map (c :: ·)
  | .reference name :: rest =>
    match env name with
    | none => .error name
    | some value => (replaced env rest).map (value.toList ++ ·)

variable {env : Environment}

theorem replaced_characters (before : List Char) (pieces : List Piece) :
    replaced env (before.map .character ++ pieces) = (replaced env pieces).map (before ++ ·) := by
  induction before with
  | nil =>
    rw [List.map_nil, List.nil_append]
    cases replaced env pieces <;> rfl
  | cons c before ih =>
    rw [List.map_cons, List.cons_append, replaced, ih]
    cases replaced env pieces <;> rfl

/-- Replacing by a search for each next reference is replacing while reading. -/
theorem expandChars_reads (text : List Char) :
    ∃ pieces, Reads text pieces ∧ ∀ env, expandChars env text = replaced env pieces := by
  -- a turn of the search goes on behind the reference that it found
  fun_induction referenced text with
  | case1 text absent =>
    refine ⟨_, reads_of_none absent, fun env => ?_⟩
    have all : replaced env (text.map .character ++ []) = (replaced env []).map (text ++ ·) :=
      replaced_characters text []
    rw [List.append_nil] at all
    rw [expandChars, absent, all]
    exact congrArg Except.ok (List.append_nil text).symm
  | case2 text before name rest found ih =>
    obtain ⟨pieces, further, replaces⟩ := ih
    refine ⟨_, reads_of_first found further, fun env => ?_⟩
    rw [expandChars, found, replaced_characters, replaced]
    simp only [replaces]
    cases env (String.ofList name) with
    | none => rfl
    | some value =>
      cases replaced env pieces with
      | error cause => rfl
      | ok expanded => exact congrArg Except.ok (List.append_assoc ..)

/-- There is a variable for each reference among the pieces. -/
def HasAll (env : Environment) (pieces : List Piece) : Prop :=
  ∀ name, .reference name ∈ pieces → env name ≠ none

/-- The first reference among the pieces that there is no variable for. -/
def FirstMissing (env : Environment) (pieces : List Piece) (name : String) : Prop :=
  ∃ before after, pieces = before ++ .reference name :: after ∧ HasAll env before ∧ env name = none

theorem hasAll_cons {piece : Piece} {rest : List Piece} : HasAll env (piece :: rest) ↔
    (∀ name, piece = .reference name → env name ≠ none) ∧ HasAll env rest := by
  simp only [HasAll, List.mem_cons]
  constructor
  · intro all
    exact ⟨fun name same => all name (.inl same.symm), fun name member => all name (.inr member)⟩
  · rintro ⟨first, others⟩ name (same | member)
    · exact first name same.symm
    · exact others name member

/-- Every variable is there, or one of them is the first that is not. -/
theorem hasAll_or_missing (env : Environment) (pieces : List Piece) :
    HasAll env pieces ∨ ∃ name, FirstMissing env pieces name := by
  induction pieces with
  | nil => exact .inl (by simp [HasAll])
  | cons piece rest ih =>
    by_cases first : ∀ name, piece = .reference name → env name ≠ none
    · rcases ih with all | ⟨name, before, after, rfl, all, missing⟩
      · exact .inl (hasAll_cons.mpr ⟨first, all⟩)
      · exact .inr ⟨name, piece :: before, after, rfl, hasAll_cons.mpr ⟨first, all⟩, missing⟩
    · push Not at first
      obtain ⟨name, rfl, missing⟩ := first
      exact .inr ⟨name, [], rest, rfl, by simp [HasAll], missing⟩

theorem replaced_of_hasAll {pieces : List Piece} (all : HasAll env pieces) :
    replaced env pieces = .ok (pieces.flatMap (Piece.replacement env)) := by
  induction pieces with
  | nil => rfl
  | cons piece rest ih =>
    obtain ⟨first, others⟩ := hasAll_cons.mp all
    cases piece with
    | character c =>
      rw [replaced, ih others]
      rfl
    | reference name =>
      cases held : env name with
      | none => exact absurd held (first name rfl)
      | some value => simp [replaced, held, ih others, Piece.replacement, Except.map]

/-- The first variable that is missing is the error, whatever follows. -/
theorem replaced_of_missing {pieces : List Piece} {name : String}
    (missing : FirstMissing env pieces name) : replaced env pieces = .error name := by
  obtain ⟨before, after, rfl, all, absent⟩ := missing
  induction before with
  | nil => simp [replaced, absent]
  | cons piece before ih =>
    obtain ⟨first, others⟩ := hasAll_cons.mp all
    cases piece with
    | character c =>
      rw [List.cons_append, replaced, ih others]
      rfl
    | reference known =>
      cases held : env known with
      | none => exact absurd held (first known rfl)
      | some value =>
        simp only [List.cons_append, replaced, held, ih others]
        rfl

/-- Replacing the references of a text is one pass over it. There is exactly one way to read the text
from left to right as references, with the longest names, and as characters that stand for themselves.
The result has the value of its variable for each reference, whatever the value looks like, and all other
characters as they are; and there is one unless a variable is missing, when the first missing one is
reported. -/
theorem expansion_reads_once (text : String) : ∃ pieces, Reads text.toList pieces ∧
    (∀ others, Reads text.toList others → others = pieces) ∧ ∀ env : Environment,
      (∀ expanded, expand env text = .ok expanded ↔
        HasAll env pieces ∧ expanded = String.ofList (pieces.flatMap (Piece.replacement env))) ∧
      ∀ name, expand env text = .error name ↔ FirstMissing env pieces name := by
  obtain ⟨pieces, reads, replaces⟩ := expandChars_reads text.toList
  refine ⟨pieces, reads, fun others again => reads_unique again reads, fun env => ?_⟩
  have result : expand env text = (replaced env pieces).map String.ofList := by
    rw [expand, replaces]
  rw [result]
  rcases hasAll_or_missing env pieces with all | ⟨first, missing⟩
  · have none_missing (name : String) : ¬ FirstMissing env pieces name := by
      rintro ⟨before, after, rfl, -, absent⟩
      exact all name (by simp) absent
    rw [replaced_of_hasAll all]
    constructor
    · intro expanded
      simp [Except.map, all, eq_comm]
    · intro name
      simp [Except.map, none_missing name]
  · have not_all : ¬ HasAll env pieces := by
      intro all
      obtain ⟨before, after, rfl, -, absent⟩ := missing
      exact all first (by simp) absent
    rw [replaced_of_missing missing]
    constructor
    · intro expanded
      simp [Except.map, not_all]
    · intro name
      constructor
      · intro same
        cases same
        exact missing
      · intro other
        have reported := replaced_of_missing other
        rw [replaced_of_missing missing] at reported
        cases reported
        rfl

/-- A value that looks like a reference stays as it is, and so do dollar signs without a name and a brace that
is not closed. -/
example : expand (fun name => if name = "A" then some "$B" else none) "$\x7bA\x7d$A.$$A$\x7bA$" =
    .ok "$B$B.$$B$\x7bA$" := by cbv

end ColumnQuery.Environment
