import ColumnQuery.Proofs.Quoting

/-! Which characters of a text lie in a line comment. Two dashes outside quotes begin a comment, and it
lasts to the end of the line, with whatever quotes are in it. A literal leaves the scanner where a
blank would leave it, so that no comment begins or ends with it, but in two places: a negative number
behind a dash begins a comment, and a string with a line end in it may end one. -/
namespace ColumnQuery
open Sql Text

/-- The characters that end a line. -/
def isLineEnd (c : Char) : Bool :=
  c == '\n' || c == '\r'

/-- Where the scanner stands. -/
inductive Commenting
  | outside
  | behindDash
  | inString
  | inName
  | inComment
deriving DecidableEq

namespace Commenting

/-- One character is read where no quote is open and no dash waits for another. -/
def enter (c : Char) : Commenting :=
  if c = '\'' then .inString
  else if c = '"' then .inName
  else if c = '-' then .behindDash
  else .outside

/-- One character is read. -/
def step (state : Commenting) (c : Char) : Commenting :=
  match state with
  | .outside => enter c
  | .behindDash => if c = '-' then .inComment else enter c
  | .inString => if c = '\'' then .outside else .inString
  | .inName => if c = '"' then .outside else .inName
  | .inComment => if isLineEnd c then .outside else .inComment

/-- Where the scanner stands after a text. -/
def after (state : Commenting) (cs : List Char) : Commenting :=
  cs.foldl step state

/-- Whether a character lies in a comment, the two dashes included. The first of them is told by the
second. -/
def covers (state : Commenting) (c : Char) (dashFollows : Bool) : Bool :=
  match state with
  | .outside => c == '-' && dashFollows
  | .behindDash => c == '-'
  | .inString => false
  | .inName => false
  | .inComment => !isLineEnd c

theorem after_append (state : Commenting) (first second : List Char) :
    state.after (first ++ second) = (state.after first).after second :=
  List.foldl_append

/-- Only a dash outside quotes looks at what follows it. -/
theorem covers_alike {state : Commenting} {c : Char} {first second : Bool}
    (alike : state.step c = .behindDash → first = second) :
    state.covers c first = state.covers c second := by
  cases state with
  | outside =>
    by_cases dash : c = '-'
    · subst dash
      rw [alike rfl]
    · have other : (c == '-') = false := beq_eq_false_iff_ne.mpr dash
      rw [covers, covers, other, Bool.false_and, Bool.false_and]
  | _ => rfl

end Commenting

namespace Marked

/-- Whether a dash comes next: the first character is one, or, where there is none, what follows
begins with one. -/
def dashFirst (dashFollows : Bool) : List Marked → Bool
  | [] => dashFollows
  | c :: _ => c.char == '-'

/-- Every character beside whether it lies in a comment. The scanner does not see the origins. -/
def commented (state : Commenting) (dashFollows : Bool) : List Marked → List (Bool × Marked)
  | [] => []
  | c :: rest => (state.covers c.char (dashFirst dashFollows rest), c) ::
      commented (state.step c.char) dashFollows rest

theorem dashFirst_append (dashFollows : Bool) (first second : List Marked) :
    dashFirst dashFollows (first ++ second) = dashFirst (dashFirst dashFollows second) first := by
  cases first <;> rfl

/-- Two texts are scanned one after the other: the second begins in the state that the first ends in, and
the first looks ahead to whether the second begins with a dash. -/
theorem commented_append (state : Commenting) (dashFollows : Bool) (first second : List Marked) :
    commented state dashFollows (first ++ second) =
      commented state (dashFirst dashFollows second) first ++
        commented (state.after (chars first)) dashFollows second := by
  induction first generalizing state with
  | nil => rfl
  | cons c rest ih =>
    rw [List.cons_append, commented, commented, ih, dashFirst_append]
    rfl

/-- What follows a text matters to it only behind a dash at its end. -/
theorem commented_alike {state : Commenting} {first second : Bool} {marked : List Marked}
    (alike : state.after (chars marked) = .behindDash → first = second) :
    commented state first marked = commented state second marked := by
  induction marked generalizing state with
  | nil => rfl
  | cons c rest ih =>
    rw [commented, commented, ih alike]
    cases rest with
    | nil => exact congrArg (fun covered => [(covered, c)]) (Commenting.covers_alike alike)
    | cons next rest => rfl

/-- The characters of the template among those scanned, each beside whether it lies in a comment. -/
def templateComments (scanned : List (Bool × Marked)) : List (Bool × Char) :=
  scanned.filterMap fun (covered, c) =>
    if c.origin = .template then some (covered, c.char) else none

theorem templateComments_append (first second : List (Bool × Marked)) :
    templateComments (first ++ second) = templateComments first ++ templateComments second :=
  List.filterMap_append

theorem mem_of_commented {state : Commenting} {dashFollows covered : Bool} {c : Marked}
    {marked : List Marked} (scanned : (covered, c) ∈ commented state dashFollows marked) :
    c ∈ marked := by
  induction marked generalizing state with
  | nil => cases scanned
  | cons first rest ih =>
    rcases List.mem_cons.mp scanned with same | later
    · cases same
      exact .head _
    · exact .tail _ (ih later)

/-- Where there are no characters of the template, there are none of its comments. -/
theorem templateComments_foreign {state : Commenting} {dashFollows : Bool} {marked : List Marked}
    (foreign : ∀ c ∈ marked, c.origin ≠ .template) :
    templateComments (commented state dashFollows marked) = [] := by
  refine List.filterMap_eq_nil_iff.mpr fun (covered, c) scanned => ?_
  simp [foreign c (mem_of_commented scanned)]

end Marked

namespace Commenting

/-! ## Literals outside comments -/

/-- A character that begins nothing: neither a quote nor a dash. -/
def isQuiet (c : Char) : Bool :=
  isPlain c && c != '-'

theorem quiet_of_class {p : Char → Bool} (string : p '\'' = false) (name : p '"' = false)
    (dash : p '-' = false) {c : Char} (inside : p c = true) : isQuiet c = true := by
  have noDash : c ≠ '-' := by
    rintro rfl
    simp [dash] at inside
  simp [isQuiet, plain_of_class string name inside, noDash]

theorem enter_quiet {c : Char} (quiet : isQuiet c = true) : enter c = .outside := by
  simp only [isQuiet, isPlain, Bool.and_eq_true, bne_iff_ne] at quiet
  simp [enter, quiet]

/-- Text without quotes and dashes leads into no string, name or comment. -/
theorem after_quiet {cs : List Char} (quiet : ∀ c ∈ cs, isQuiet c = true) :
    outside.after cs = .outside := by
  induction cs with
  | nil => rfl
  | cons c rest ih =>
    change (enter c).after rest = .outside
    rw [enter_quiet (quiet c (.head _))]
    exact ih fun d member => quiet d (.tail _ member)

/-- A dash before a digit is a sign. -/
theorem after_sign {digits : List Char} (unsigned : Decimal.IsUnsigned digits) :
    outside.after ('-' :: digits) = outside.after digits := by
  cases digits with
  | nil => cases unsigned.first_digit
  | cons first rest =>
    have digit : first.isDigit = true := by simpa using unsigned.first_digit
    have quiet := quiet_of_class rfl rfl rfl digit
    have noDash : first ≠ '-' := by simpa [isQuiet] using (Bool.and_eq_true_iff.mp quiet).2
    change (behindDash.step first).after rest = (enter first).after rest
    rw [step, if_neg noDash]

theorem quiet_digit {c : Char} (digit : c.isDigit = true) : isQuiet c = true :=
  quiet_of_class rfl rfl rfl digit

theorem after_int (n : Int) : outside.after (toString n).toList = .outside := by
  cases n with
  | ofNat n => exact after_quiet fun c member => quiet_digit (Decimal.nat_digits n c member)
  | negSucc n =>
    have written : (toString (Int.negSucc n)).toList = '-' :: (toString n.succ).toList := by
      change ("-" ++ n.succ.repr).toList = _
      rw [String.toList_append, Nat.toString_eq_repr]
      rfl
    rw [written, after_sign (Decimal.unsigned_nat _)]
    exact after_quiet fun c member => quiet_digit (Decimal.nat_digits _ c member)

theorem quiet_zeros (n : Int) : ∀ c ∈ (Decimal.zeros n).toList, isQuiet c = true := by
  intro c member
  rw [Decimal.zeros, String.toList_ofList] at member
  rw [List.eq_of_mem_replicate member]
  rfl

theorem after_positional {digits : String} (quiet : ∀ c ∈ digits.toList, isQuiet c = true)
    (point : Int) : outside.after (Decimal.compact.positional digits point).toList = .outside := by
  refine after_quiet ?_
  have mark : ∀ c ∈ Decimal.compact.wholeMark.toList, isQuiet c = true :=
    List.all_eq_true.mp (by decide)
  have dot : ∀ c ∈ ".".toList, isQuiet c = true := List.all_eq_true.mp (by decide)
  have zero : ∀ c ∈ "0.".toList, isQuiet c = true := List.all_eq_true.mp (by decide)
  unfold Decimal.Layout.positional
  split
  · simp only [String.toList_append, List.forall_mem_append]
    exact ⟨⟨zero, quiet_zeros _⟩, quiet⟩
  · split
    · simp only [String.toList_append, List.forall_mem_append]
      exact ⟨⟨quiet, quiet_zeros _⟩, mark⟩
    · simp only [String.toList_append, String.toList_ofList, List.forall_mem_append]
      exact ⟨⟨fun c member => quiet c (List.mem_of_mem_take member), dot⟩,
        fun c member => quiet c (List.mem_of_mem_drop member)⟩

theorem after_scientific {digits : String} (quiet : ∀ c ∈ digits.toList, isQuiet c = true)
    (point : Int) : outside.after (Decimal.compact.scientific digits point).toList = .outside := by
  have exponent : outside.after ("e" ++ (if 1 < point then Decimal.compact.exponentMark else "") ++
      toString (point - 1)).toList = .outside := by
    have mark : outside.after ("e" ++
        (if 1 < point then Decimal.compact.exponentMark else "")).toList = .outside := by
      split <;> decide
    rw [String.toList_append, after_append, mark]
    exact after_int _
  unfold Decimal.Layout.scientific
  simp only
  split
  · next first next rest shape =>
    rw [shape] at quiet
    have front : ∀ c ∈ first :: '.' :: next :: rest, isQuiet c = true := by
      have point : isQuiet '.' = true := by decide
      simpa [point] using quiet
    rw [String.toList_append, String.toList_ofList, after_append, after_quiet front]
    exact exponent
  · rw [String.toList_append, after_append, after_quiet quiet]
    exact exponent

/-- After a number the scan is outside of strings, names and comments again. -/
theorem after_compact (x : Binary64) : outside.after (Decimal.compact.text x).toList = .outside := by
  obtain ⟨n, point, magnitude, laid, written, -⟩ := Decimal.compact_text x
  have quiet : ∀ c ∈ (toString n).toList, isQuiet c = true :=
    fun c member => quiet_digit (Decimal.nat_digits n c member)
  have still : outside.after magnitude.toList = .outside := by
    rcases laid with rfl | rfl
    · exact after_positional quiet point
    · exact after_scientific quiet point
  rw [written]
  split
  · rw [String.toList_append]
    exact (after_sign (Decimal.unsigned_magnitude laid)).trans still
  · exact still

/-- A quote within a string is written twice, so the string goes on. -/
theorem after_doubled (cs : List Char) : inString.after (doubled '\'' cs) = .inString := by
  induction cs with
  | nil => rfl
  | cons c rest ih =>
    rw [doubled]
    split
    · exact ih
    · next other =>
      change (inString.step c).after (doubled '\'' rest) = .inString
      rw [step, if_neg other, ih]

/-- A string closes what it opens. -/
theorem after_string (text : String) : outside.after (stringText text).toList = .outside := by
  rw [stringText, quoted, String.toList_ofList]
  change inString.after (doubled '\'' text.toList ++ ['\'']) = .outside
  rw [after_append, after_doubled]
  rfl

/-- Outside comments and quotes a literal leaves nothing open, not even a dash. -/
theorem after_literal (literal : Literal) : outside.after literal.sql.toList = .outside := by
  cases literal with
  | null => decide
  | text value => exact after_string value
  | integer value => exact after_int value.toInt
  | real value =>
    rw [Literal.sql, realText]
    split
    · exact after_compact value
    · decide
  | boolean value => cases value <;> decide
  | uuid value => exact after_string value.text
  | temporal value => exact after_string value.text

end Commenting

end ColumnQuery
