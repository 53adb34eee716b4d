import ColumnQuery.Proofs.Outcome
import ColumnQuery.Proofs.Template.Assembly
import ColumnQuery.Proofs.Template.Bytes

/-! Where a faulty template is wrong. A fault is reported at the mark that causes it, and before that mark
nothing is wrong, but for clauses that are still open there. Of the clauses that stay open to the end the
last one is named. A fault of what stands between two marks, and a mark that closes nothing, are
reported as well when the text goes on. -/
namespace ColumnQuery
open Text Template Lexeme

/-! ## Faults and their marks -/

/-- The place that a fault is reported at. -/
def TemplateError.offset : TemplateError → Nat
  | .unterminatedReference offset => offset
  | .emptyReference offset => offset
  | .invalidName _ offset => offset
  | .unclosedGroup offset => offset
  | .unbalancedClose offset => offset

/-- The mark that causes a fault. -/
def TemplateError.mark : TemplateError → List Char
  | .unterminatedReference _ => openReference
  | .emptyReference _ => openReference
  | .invalidName _ _ => openReference
  | .unclosedGroup _ => openClause
  | .unbalancedClose _ => closeClause

/-- Whether nothing that follows can mend a fault. -/
def TemplateError.IsFinal : TemplateError → Prop
  | .unterminatedReference _ => False
  | .emptyReference _ => True
  | .invalidName _ _ => True
  | .unclosedGroup _ => False
  | .unbalancedClose _ => True

/-! ## Clauses that stay open -/

namespace Template

/-- Lexemes in which every mark that opens a clause has one that closes it. -/
inductive Balanced : List Lexeme → Prop
  | nil : Balanced []
  | character {rest : List Lexeme} (c : Char) (later : Balanced rest) :
      Balanced (.character c :: rest)
  | reference {rest : List Lexeme} (name : String) (later : Balanced rest) :
      Balanced (.reference name :: rest)
  | clause {inside rest : List Lexeme} (within : Balanced inside) (later : Balanced rest) :
      Balanced (.opening :: (inside ++ .closing :: rest))

/-- Whether a clause that was just opened is closed by what follows. -/
def ClosedIn (lexemes : List Lexeme) : Prop :=
  ∃ inside rest, lexemes = inside ++ .closing :: rest ∧ Balanced inside

/-- Whether the clause that is opened at a place is not closed by anything that follows. -/
def StaysOpen (placed : List PlacedLexeme) (offset : Nat) : Prop :=
  ∃ before after, placed = before ++ ⟨offset, .opening⟩ :: after ∧
    ¬ ClosedIn (after.map (·.lexeme))

variable {first second word before after : List Lexeme}

theorem Balanced.append (balanced : Balanced first) (more : Balanced second) :
    Balanced (first ++ second) := by
  induction balanced with
  | nil => exact more
  | character c later ih => exact .character c ih
  | reference name later ih => exact .reference name ih
  | clause within later _ ih =>
    rw [List.cons_append, List.append_assoc, List.cons_append]
    exact .clause within ih

theorem Balanced.count (balanced : Balanced word) :
    word.count .closing = word.count .opening := by
  induction balanced with
  | nil => rfl
  | character c later ih => simpa using ih
  | reference name later ih => simpa using ih
  | clause within later ihWithin ihLater =>
    simp only [List.count_cons, List.count_append]
    simp [ihWithin, ihLater]
    omega

/-- Up to no point are more clauses closed than opened. -/
theorem Balanced.count_before (balanced : Balanced word) (whole : word = before ++ after) :
    before.count .closing ≤ before.count .opening := by
  induction balanced generalizing before after with
  | nil =>
    obtain ⟨rfl, -⟩ := List.append_eq_nil_iff.mp whole.symm
    exact Nat.le_refl _
  | character c later ih =>
    cases before with
    | nil => exact Nat.le_refl _
    | cons lexeme before =>
      obtain ⟨rfl, tail⟩ := List.cons.inj whole
      simpa using ih tail
  | reference name later ih =>
    cases before with
    | nil => exact Nat.le_refl _
    | cons lexeme before =>
      obtain ⟨rfl, tail⟩ := List.cons.inj whole
      simpa using ih tail
  | @clause inside rest within later ihWithin ihLater =>
    cases before with
    | nil => exact Nat.le_refl _
    | cons lexeme before =>
      obtain ⟨rfl, split⟩ := List.cons.inj whole
      have same := within.count
      rcases List.append_eq_append_iff.mp split with ⟨more, rfl, tail⟩ | ⟨more, rfl, -⟩
      · cases more with
        | nil => simp [same]
        | cons mark more =>
          obtain ⟨rfl, others⟩ := List.cons.inj tail
          have beyond := ihLater others
          simp [List.count_append]
          omega
      · have upTo := ihWithin rfl
        simp
        omega

/-- What is balanced closes no clause that was opened before it. -/
theorem Balanced.not_closedIn (balanced : Balanced word) : ¬ ClosedIn word := by
  rintro ⟨inside, rest, whole, within⟩
  have cut : word = (inside ++ [.closing]) ++ rest := by rw [whole]; simp
  have closed := balanced.count_before cut
  have same := within.count
  simp [List.count_append] at closed
  omega

/-- What is balanced closes every clause that it opens. -/
theorem Balanced.closes (balanced : Balanced word) (whole : word = before ++ .opening :: after) :
    ClosedIn after := by
  induction balanced generalizing before after with
  | nil => cases before <;> cases whole
  | character c later ih =>
    cases before with
    | nil => cases whole
    | cons lexeme before => exact ih (List.cons.inj whole).2
  | reference name later ih =>
    cases before with
    | nil => cases whole
    | cons lexeme before => exact ih (List.cons.inj whole).2
  | @clause inside rest within later ihWithin ihLater =>
    cases before with
    | nil => exact ⟨inside, rest, (List.cons.inj whole).2.symm, within⟩
    | cons lexeme before =>
      rcases List.append_eq_append_iff.mp (List.cons.inj whole).2 with
        ⟨more, rfl, tail⟩ | ⟨more, split, tail⟩
      · cases more with
        | nil => cases tail
        | cons mark more => exact ihLater (List.cons.inj tail).2
      · cases more with
        | nil => cases tail
        | cons mark more =>
          obtain ⟨rfl, rfl⟩ := List.cons.inj tail
          obtain ⟨inner, others, rfl, balanced⟩ := ihWithin split
          exact ⟨inner, others ++ .closing :: rest, by simp, balanced⟩

/-- Lexemes that leave these clauses open, the innermost first. -/
inductive Leaves : List OpenClause → List PlacedLexeme → Prop
  | nothing {placed : List PlacedLexeme} (balanced : Balanced (placed.map (·.lexeme))) :
      Leaves [] placed
  | clause {clause : OpenClause} {outer : List OpenClause} {before after : List PlacedLexeme}
      (outside : Leaves outer before) (balanced : Balanced (after.map (·.lexeme))) :
      Leaves (clause :: outer) (before ++ ⟨clause.offset, .opening⟩ :: after)

section Leaving

variable {clauses outer : List OpenClause} {clause : OpenClause} {placed more : List PlacedLexeme}

theorem Leaves.append (leaves : Leaves clauses placed)
    (balanced : Balanced (more.map (·.lexeme))) : Leaves clauses (placed ++ more) := by
  cases leaves with
  | nothing all =>
    refine .nothing ?_
    rw [List.map_append]
    exact all.append balanced
  | clause outside within =>
    rw [List.append_assoc, List.cons_append]
    refine .clause outside ?_
    rw [List.map_append]
    exact within.append balanced

/-- One lexeme opens a clause, closes the innermost one, or leaves all clauses as they are. -/
theorem step_leaves {a b : Assembly} {lexeme : PlacedLexeme} (leaves : Leaves a.clauses placed)
    (stepped : a.step lexeme = .ok b) : Leaves b.clauses (placed ++ [lexeme]) := by
  obtain ⟨offset, lexeme⟩ := lexeme
  cases lexeme with
  | character c =>
    cases stepped
    exact leaves.append (.character c .nil)
  | reference name =>
    cases stepped
    exact leaves.append (.reference name .nil)
  | opening =>
    cases stepped
    exact .clause leaves .nil
  | closing =>
    cases clauses : a.clauses with
    | nil => simp [Assembly.step, clauses] at stepped
    | cons clause outer =>
      simp only [Assembly.step, clauses, Except.ok.injEq] at stepped
      subst stepped
      rw [clauses] at leaves
      cases leaves with
      | @clause _ _ before after outside within =>
        rw [List.append_assoc]
        refine outside.append ?_
        simpa using Balanced.clause within .nil

/-- What was taken leaves open the groups that are still open. -/
theorem steps_leave {a b : Assembly} (leaves : Leaves a.clauses placed)
    (ran : a.steps more = .ok b) : Leaves b.clauses (placed ++ more) := by
  induction more generalizing a placed with
  | nil =>
    cases ran
    rwa [List.append_nil]
  | cons lexeme more ih =>
    rw [Assembly.steps] at ran
    cases stepped : a.step lexeme with
    | error fault =>
      rw [stepped] at ran
      cases ran
    | ok next =>
      rw [stepped] at ran
      have goesOn := ih (step_leaves leaves stepped) ran
      rwa [List.append_assoc] at goesOn

/-- The innermost of the clauses that are left open stays open, and none after it does. -/
theorem innermost_stays_open (leaves : Leaves (clause :: outer) placed)
    (increase : placed.Pairwise fun lexeme later => lexeme.offset < later.offset) :
    StaysOpen placed clause.offset ∧ ∀ offset, StaysOpen placed offset → offset ≤ clause.offset := by
  cases leaves with
  | @clause _ _ before after outside balanced =>
    refine ⟨⟨before, after, rfl, balanced.not_closedIn⟩, ?_⟩
    rintro offset ⟨earlier, later, whole, stays⟩
    rcases List.append_eq_append_iff.mp whole with ⟨between, rfl, tail⟩ | ⟨between, rfl, tail⟩
    · cases between with
      | nil =>
        have same : clause.offset = offset := congrArg PlacedLexeme.offset (List.cons.inj tail).1
        exact Nat.le_of_eq same.symm
      | cons mark between =>
        -- what is opened later stands in a balanced list, which closes it
        obtain ⟨rfl, rfl⟩ := List.cons.inj tail
        have within : (between ++ ⟨offset, .opening⟩ :: later).map (·.lexeme) =
            between.map (·.lexeme) ++ .opening :: later.map (·.lexeme) := by simp
        exact absurd (balanced.closes within) stays
    · cases between with
      | nil =>
        have same : offset = clause.offset := congrArg PlacedLexeme.offset (List.cons.inj tail).1
        exact Nat.le_of_eq same
      | cons mark between =>
        obtain ⟨rfl, -⟩ := List.cons.inj tail
        have earlierThan := (List.pairwise_append.mp increase).2.2
        exact Nat.le_of_lt (earlierThan ⟨offset, .opening⟩ (by simp) ⟨clause.offset, .opening⟩ (.head _))

end Leaving

end Template

/-! ## The first fault -/

namespace Assembly

/-- Lexemes fail to be taken up only at a mark that closes nothing. -/
theorem unbalanced_of_steps {a : Assembly} {placed : List PlacedLexeme} {fault : TemplateError}
    (failed : a.steps placed = .error fault) : ∃ first offset more b,
      placed = first ++ ⟨offset, .closing⟩ :: more ∧ a.steps first = .ok b ∧ b.clauses = [] ∧
        fault = .unbalancedClose offset := by
  induction placed generalizing a with
  | nil => cases failed
  | cons lexeme more ih =>
    rw [steps] at failed
    cases stepped : a.step lexeme with
    | ok next =>
      rw [stepped] at failed
      obtain ⟨first, offset, later, b, rfl, ran, closed, same⟩ := ih failed
      refine ⟨lexeme :: first, offset, later, b, rfl, ?_, closed, same⟩
      rw [steps, stepped]
      exact ran
    | error cause =>
      rw [stepped] at failed
      cases failed
      obtain ⟨offset, lexeme⟩ := lexeme
      cases lexeme with
      | character c => cases stepped
      | reference name => cases stepped
      | opening => cases stepped
      | closing =>
        cases clauses : a.clauses with
        | nil =>
          simp only [step, clauses, Except.error.injEq] at stepped
          exact ⟨[], offset, more, a, rfl, rfl, clauses, stepped.symm⟩
        | cons clause outer => simp [step, clauses] at stepped

theorem outcome_prepend {a b : Assembly} {first : List PlacedLexeme} (ran : a.steps first = .ok b)
    (lexed : Lexed) : a.outcome (lexed.prepend first) = b.outcome lexed := by
  rw [outcome, Lexed.prepend, steps_append, ran]
  rfl

theorem outcome_unbalanced {b : Assembly} (closed : b.clauses = []) (offset : Nat) (lexed : Lexed) :
    b.outcome (lexed.cons ⟨offset, .closing⟩) = .error (.unbalancedClose offset) := by
  have stuck : b.step ⟨offset, .closing⟩ = .error (.unbalancedClose offset) := by
    simp only [step, closed]
  rw [outcome_cons, stuck]
  rfl

/-- At the end of a text only an open clause can be missing something. -/
theorem finish_or_open (b : Assembly) :
    (∃ template, b.finish = .ok template) ∨ ∃ offset, b.finish = .error (.unclosedGroup offset) := by
  cases clauses : b.clauses with
  | nil => exact .inl ⟨b.flushed, by rw [finish, clauses]⟩
  | cons clause outer => exact .inr ⟨clause.offset, by rw [finish, clauses]⟩

end Assembly

namespace Template

variable {text : String} {fault : TemplateError}

/-- A text before one of its lexemes, or before its fault, is read by itself as far as it goes, and
whatever is added to the text is met in the state that this comes to. -/
theorem ofText_cut {first second : List PlacedLexeme} {ended : Option TemplateError} {b : Assembly}
    (read : Lexed.ofText text = ⟨first ++ second, ended⟩) (ran : Assembly.steps {} first = .ok b) :
    ∃ before after : String, text = before ++ after ∧
      Lexed.ofChars before.utf8ByteSize after.toList = ⟨second, ended⟩ ∧
      ofText before = b.finish ∧ (after ≠ "" → ∀ suffix : String, ofText (text ++ suffix) =
        b.outcome (Lexed.ofChars before.utf8ByteSize (after.toList ++ suffix.toList))) := by
  obtain ⟨before, rest, whole, reached, keeps⟩ := Lexed.cut_of_read read
  rw [Nat.zero_add] at reached keeps
  refine ⟨String.ofList before, String.ofList rest, ?_, ?_, ?_, fun present suffix => ?_⟩
  · rw [← String.ofList_append, ← whole, String.ofList_toList]
  · rw [byteLength_ofList, String.toList_ofList]
    exact reached
  · have alone := keeps [] fun c begins => by cases begins
    rw [List.append_nil, Lexed.ofChars] at alone
    change Assembly.outcome {} (Lexed.ofChars 0 (String.ofList before).toList) = _
    rw [String.toList_ofList, alone, Assembly.outcome_prepend ran]
    rfl
  · have begins : Lexed.Replaces (rest ++ suffix.toList) rest := by
      cases rest with
      | nil => exact absurd rfl present
      | cons c rest => exact fun d first => first
    change Assembly.outcome {} (Lexed.ofChars 0 (text ++ suffix).toList) = _
    rw [String.toList_append, whole, List.append_assoc, keeps _ begins, Assembly.outcome_prepend ran,
      byteLength_ofList, String.toList_ofList]

/-- A mark stands at the place of its lexeme. -/
theorem mark_of_read {offset place : Nat} {cs mark : List Char} {lexeme : Lexeme}
    {more : List PlacedLexeme} {ended : Option TemplateError}
    (read : Lexed.ofChars offset cs = ⟨⟨place, lexeme⟩ :: more, ended⟩)
    (only : ∀ chars, lexeme.Written chars → chars = mark) : offset = place ∧ mark <+: cs := by
  obtain ⟨chars, rest, rfl, here, written, -⟩ := Lexed.first_of_read read
  rw [only chars written]
  exact ⟨here.symm, List.prefix_append ..⟩

/-- What a fault says of a text: it is reported behind the first of the two parts, at the mark that
causes it. -/
structure PointsAt (text : String) (fault : TemplateError) (before after : String) : Prop where
  whole : text = before ++ after
  place : before.utf8ByteSize = fault.offset
  mark : fault.mark <+: after.toList
  /-- Before the mark nothing is wrong, but for clauses that are still open. -/
  earlier : (∃ template, ofText before = .ok template) ∨
    ∃ offset, ofText before = .error (.unclosedGroup offset)
  /-- Before a mark that closes nothing no clause is open. -/
  closed : ∀ offset, fault = .unbalancedClose offset → ∃ template, ofText before = .ok template
  /-- Of the clauses that stay open the last one is named. -/
  innermost : ∀ offset, fault = .unclosedGroup offset →
    StaysOpen (Lexed.ofText text).lexemes offset ∧
      ∀ other, StaysOpen (Lexed.ofText text).lexemes other → other ≤ offset
  /-- What cannot be mended is reported as well when the text goes on. -/
  final : fault.IsFinal → ∀ suffix, ofText (text ++ suffix) = .error fault

/-- A fault is reported between two characters. -/
theorem PointsAt.isValid {before after : String} (points : PointsAt text fault before after) :
    (String.Pos.Raw.mk fault.offset).IsValid text :=
  String.Pos.Raw.isValid_iff_exists_append.mpr
    ⟨before, after, points.whole, by rw [← points.place]; rfl⟩

/-- A fault is reported within the text. -/
theorem PointsAt.inside {before after : String} (points : PointsAt text fault before after) :
    fault.offset < text.utf8ByteSize := by
  have marked : fault.mark ≠ [] := by
    cases fault <;> simp [TemplateError.mark, openReference, openClause, closeClause]
  obtain ⟨rest, begins⟩ := points.mark
  have taken := byteLength_pos marked
  have size : after.utf8ByteSize = byteLength after.toList := by
    rw [← byteLength_ofList, String.ofList_toList]
  rw [← begins, byteLength_append] at size
  rw [points.whole, String.utf8ByteSize_append, points.place]
  omega

/-- A mark that closes nothing is reported where it stands. -/
theorem unbalanced_points {first more : List PlacedLexeme} {offset : Nat}
    {ended : Option TemplateError} {b : Assembly}
    (read : Lexed.ofText text = ⟨first ++ ⟨offset, .closing⟩ :: more, ended⟩)
    (ran : Assembly.steps {} first = .ok b) (closed : b.clauses = []) :
    ∃ before after, PointsAt text (.unbalancedClose offset) before after := by
  obtain ⟨before, after, whole, reached, alone, goesOn⟩ := ofText_cut read ran
  obtain ⟨place, mark⟩ := mark_of_read reached fun chars written => by cases written; rfl
  have complete : ofText before = .ok b.flushed := by rw [alone, Assembly.finish, closed]
  refine ⟨before, after, whole, place, mark, .inl ⟨_, complete⟩, fun _ _ => ⟨_, complete⟩,
    fun _ same => ?_, fun _ suffix => ?_⟩
  · cases same
  · obtain ⟨rest, begins⟩ := mark
    have present : after ≠ "" := by
      rintro rfl
      cases begins
    have again : Lexed.ofChars offset (closeClause ++ (rest ++ suffix.toList)) =
        (Lexed.ofChars (offset + 2) (rest ++ suffix.toList)).cons ⟨offset, .closing⟩ := by
      rw [closeClause, List.cons_append, List.cons_append, Lexed.ofChars]
      rfl
    rw [goesOn present suffix, ← begins, place, List.append_assoc]
    exact (congrArg b.outcome again).trans (Assembly.outcome_unbalanced closed offset _)

/-- A faulty reference is reported where it begins. -/
theorem reference_points {first : List PlacedLexeme} {b : Assembly}
    (read : Lexed.ofText text = ⟨first, some fault⟩) (ran : Assembly.steps {} first = .ok b) :
    ∃ before after, PointsAt text fault before after := by
  have ending : Lexed.ofText text = ⟨first ++ [], some fault⟩ := by rw [read, List.append_nil]
  obtain ⟨before, after, whole, reached, alone, goesOn⟩ := ofText_cut ending ran
  obtain ⟨mark, cause⟩ := Lexed.fault_of_read reached
  have present : after ≠ "" := by
    rintro rfl
    obtain ⟨rest, begins⟩ := mark
    cases begins
  have same : before.utf8ByteSize = fault.offset ∧ fault.mark = openReference := by
    rcases cause with rfl | ⟨rfl | ⟨name, rfl⟩, -⟩ <;> exact ⟨rfl, rfl⟩
  refine ⟨before, after, whole, same.1, ?_, ?_, ?_, ?_, fun unmendable suffix => ?_⟩
  · rw [same.2]
    exact mark
  · rw [alone]
    exact b.finish_or_open
  · rintro offset rfl
    simp at cause
  · rintro offset rfl
    simp at cause
  · rcases cause with rfl | ⟨-, stays⟩
    · exact unmendable.elim
    · rw [goesOn present suffix, stays suffix.toList]
      rfl

/-- A clause that stays open is reported where it was opened. -/
theorem unclosed_points {placed : List PlacedLexeme} {b : Assembly} {clause : OpenClause}
    {outer : List OpenClause} (read : Lexed.ofText text = ⟨placed, none⟩)
    (ran : Assembly.steps {} placed = .ok b) (clauses : b.clauses = clause :: outer) :
    ∃ before after, PointsAt text (.unclosedGroup clause.offset) before after := by
  have leaves : Leaves (clause :: outer) placed := by
    have start : Leaves ({} : Assembly).clauses [] := .nothing .nil
    have left := steps_leave start ran
    rwa [clauses] at left
  have innermost := innermost_stays_open leaves (Lexed.places_increase read).2
  obtain ⟨first, later, rfl, -⟩ := innermost.1
  obtain ⟨c, begun, -⟩ : ∃ c, Assembly.steps {} first = .ok c ∧
      c.steps (⟨clause.offset, .opening⟩ :: later) = .ok b := by
    rw [Assembly.steps_append] at ran
    exact Outcome.ok_of_bind ran
  obtain ⟨before, after, whole, reached, alone, -⟩ := ofText_cut read begun
  obtain ⟨place, mark⟩ := mark_of_read reached fun chars written => by cases written; rfl
  refine ⟨before, after, whole, place, mark, ?_, fun _ same => ?_, fun offset same => ?_,
    fun unmendable => unmendable.elim⟩
  · rw [alone]
    exact c.finish_or_open
  · cases same
  · cases same
    rw [read]
    exact innermost

/-- Every fault points at its cause. -/
theorem points_at_cause (failed : ofText text = .error fault) :
    ∃ before after, PointsAt text fault before after := by
  rcases lexed : Lexed.ofText text with ⟨placed, ended⟩
  rw [ofText, lexed, ofLexed] at failed
  cases ran : Assembly.steps {} placed with
  | error cause =>
    rw [ran] at failed
    cases failed
    obtain ⟨first, offset, more, b, rfl, begun, closed, rfl⟩ := Assembly.unbalanced_of_steps ran
    exact unbalanced_points lexed begun closed
  | ok b =>
    rw [ran] at failed
    cases ended with
    | some cause =>
      cases failed
      exact reference_points lexed ran
    | none =>
      cases clauses : b.clauses with
      | nil => simp [Assembly.finish, clauses] at failed
      | cons clause outer =>
        simp only [Assembly.finish, clauses, Except.error.injEq] at failed
        subst failed
        exact unclosed_points lexed ran clauses

/-- Every text is read to its end or to a fault without cutting a character in two. A fault is reported
at a place between two characters, where the mark stands that causes it, and it is the first one. -/
theorem syntax_faults_point_at_causes (text : String) :
    scan? text.toList (text.utf8ByteSize + 1) 0 {} = some (ofText text) ∧
      ∀ fault, ofText text = .error fault →
        (String.Pos.Raw.mk fault.offset).IsValid text ∧ fault.offset < text.utf8ByteSize ∧
          ∃ before after, PointsAt text fault before after := by
  refine ⟨scan_eq_read text, fun fault failed => ?_⟩
  obtain ⟨before, after, points⟩ := points_at_cause failed
  exact ⟨points.isValid, points.inside, before, after, points⟩

/-- A clause that is not closed, and a misnamed reference in it, behind a letter of two bytes. -/
def misnamedText : String :=
  "é [[ \x7b\x7ba b\x7d\x7d"

/-- The reference is what the fault of this text points at: the clause could still be closed there. -/
theorem misnamed_reference_is_pointed_at :
    ofText misnamedText = .error (.invalidName "a b" 6) ∧
      (String.Pos.Raw.mk 6).IsValid misnamedText ∧ 6 < misnamedText.utf8ByteSize ∧
        ∃ before after, PointsAt misnamedText (.invalidName "a b" 6) before after := by
  have lexed : Lexed.ofText misnamedText =
      ⟨[⟨0, .character 'é'⟩, ⟨2, .character ' '⟩, ⟨3, .opening⟩, ⟨5, .character ' '⟩],
        some (.invalidName "a b" 6)⟩ := by
    decide +kernel
  have failed : ofText misnamedText = .error (.invalidName "a b" 6) := by
    rw [ofText, lexed]
    rfl
  exact ⟨failed, (syntax_faults_point_at_causes misnamedText).2 _ failed⟩

end Template

end ColumnQuery
