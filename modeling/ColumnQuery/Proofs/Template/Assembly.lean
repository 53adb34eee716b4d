import ColumnQuery.Template.Reader
import Mathlib.Data.List.Chain

/-! Putting lexemes together to a template. Nothing is lost on the way: the lexemes of the template are
the lexemes that were taken up. And a template whose texts are not split is put together again from
its lexemes. -/
namespace ColumnQuery

namespace Template

mutual

/-- The lexemes of a part: a text is its characters, a clause stands between its two marks. -/
def partLexemes : TemplatePart → List Lexeme
  | .text content => content.toList.map .character
  | .reference name => [.reference name]
  | .optional parts => .opening :: lexemes parts ++ [.closing]

/-- The lexemes of a template in their order. -/
def lexemes : List TemplatePart → List Lexeme
  | [] => []
  | part :: rest => partLexemes part ++ lexemes rest

end

theorem lexemes_append (first second : List TemplatePart) :
    lexemes (first ++ second) = lexemes first ++ lexemes second := by
  induction first with
  | nil => rfl
  | cons part rest ih => rw [List.cons_append, lexemes, lexemes, ih, List.append_assoc]

theorem lexemes_single (part : TemplatePart) : lexemes [part] = partLexemes part := by
  rw [lexemes, lexemes, List.append_nil]

/-- Whether two parts are texts, which would be read as one. -/
def Touch : TemplatePart → TemplatePart → Prop
  | .text _, .text _ => True
  | _, _ => False

mutual

/-- A text of a normal part is not empty, and its clauses are normal. -/
def IsNormalPart : TemplatePart → Prop
  | .text content => content ≠ ""
  | .reference _ => True
  | .optional parts => IsNormal parts

/-- Every part is normal, and no text is split in two. -/
def IsNormal : List TemplatePart → Prop
  | [] => True
  | part :: rest => IsNormalPart part ∧ (∀ next ∈ rest.head?, ¬ Touch part next) ∧ IsNormal rest

end

/-- Parts are normal when each of them is and no two texts touch. -/
theorem isNormal_iff {parts : List TemplatePart} : IsNormal parts ↔
    (∀ part ∈ parts, IsNormalPart part) ∧ parts.IsChain fun part next => ¬ Touch part next := by
  induction parts with
  | nil => simp [IsNormal]
  | cons part rest ih =>
    rw [IsNormal, ih, List.forall_mem_cons, List.isChain_cons]
    tauto

/-- A part may follow if no text meets a text. -/
theorem isNormal_concat {parts : List TemplatePart} {last : TemplatePart} (normal : IsNormal parts)
    (ending : IsNormalPart last) (apart : ∀ part ∈ parts.getLast?, ¬ Touch part last) :
    IsNormal (parts ++ [last]) := by
  obtain ⟨each, chain⟩ := isNormal_iff.mp normal
  refine isNormal_iff.mpr ⟨List.forall_mem_append.mpr ⟨each, by simpa using ending⟩, ?_⟩
  exact List.isChain_append.mpr ⟨chain, List.isChain_singleton _, by simpa using apart⟩

end Template

open Template

namespace Assembly

variable {a b : Assembly} {placed : List PlacedLexeme}

/-- Lexemes are taken one after the other. -/
theorem steps_append (a : Assembly) (first second : List PlacedLexeme) :
    a.steps (first ++ second) = (a.steps first).bind (·.steps second) := by
  induction first generalizing a with
  | nil => rfl
  | cons lexeme rest ih =>
    rw [List.cons_append, steps, steps]
    cases a.step lexeme with
    | error fault => rfl
    | ok next => exact ih next

theorem steps_single (a : Assembly) (lexeme : PlacedLexeme) : a.steps [lexeme] = a.step lexeme := by
  rw [steps]
  cases a.step lexeme <;> rfl

/-! ## What is put together is normal and loses nothing -/

/-- The lexemes of open clauses, up to the opening of the innermost. -/
def opened : List OpenClause → List Lexeme
  | [] => []
  | clause :: outer => opened outer ++ lexemes clause.before ++ [.opening]

/-- The lexemes that were taken up so far. -/
def taken (a : Assembly) : List Lexeme :=
  opened a.clauses ++ lexemes a.flushed

/-- Every list of parts is normal, and the pending text does not meet a text. -/
structure IsNormal (a : Assembly) : Prop where
  clauses : ∀ clause ∈ a.clauses, Template.IsNormal clause.before
  parts : Template.IsNormal a.parts
  settled : ∀ part ∈ a.parts.getLast?, ∀ content, ¬ Touch part (.text content)

theorem lexemes_flushed (a : Assembly) :
    lexemes a.flushed = lexemes a.parts ++ a.text.reverse.map .character := by
  cases pending : a.text with
  | nil => simp [flushed, pending]
  | cons c text => simp [flushed, pending, lexemes_append, lexemes_single, partLexemes]

theorem flushed_normal (normal : a.IsNormal) : Template.IsNormal a.flushed := by
  cases pending : a.text with
  | nil => simpa [flushed, pending] using normal.parts
  | cons c text =>
    have flushed : a.flushed = a.parts ++ [.text (String.ofList (c :: text).reverse)] := by
      simp [flushed, pending]
    rw [flushed]
    refine isNormal_concat normal.parts ?_ fun part last => normal.settled part last _
    simp [IsNormalPart]

/-- Parts without a pending text that end in a mark. -/
theorem marked_normal {clauses : List OpenClause} {parts : List TemplatePart} {last : TemplatePart}
    (each : ∀ clause ∈ clauses, Template.IsNormal clause.before) (normal : Template.IsNormal parts)
    (ending : IsNormalPart last) (mark : ∀ other, ¬ Touch other last ∧ ¬ Touch last other) :
    IsNormal ⟨clauses, parts ++ [last], []⟩ where
  clauses := each
  parts := isNormal_concat normal ending fun part _ => (mark part).1
  settled := by
    intro part found content
    rw [List.getLast?_concat] at found
    cases found
    exact (mark _).2

/-- One step takes up one lexeme and keeps the parts normal. -/
theorem step_keeps {lexeme : PlacedLexeme} (normal : a.IsNormal) (stepped : a.step lexeme = .ok b) :
    b.IsNormal ∧ b.taken = a.taken ++ [lexeme.lexeme] := by
  obtain ⟨offset, lexeme⟩ := lexeme
  cases lexeme with
  | character c =>
    cases stepped
    exact ⟨⟨normal.clauses, normal.parts, normal.settled⟩, by simp [taken, lexemes_flushed]⟩
  | reference name =>
    cases stepped
    refine ⟨marked_normal normal.clauses (flushed_normal normal) trivial ?_, ?_⟩
    · intro other
      cases other <;> exact ⟨id, id⟩
    · simp [taken, lexemes_flushed, lexemes_append, lexemes_single, partLexemes]
  | opening =>
    cases stepped
    refine ⟨⟨?_, trivial, by simp⟩, ?_⟩
    · exact List.forall_mem_cons.mpr ⟨flushed_normal normal, normal.clauses⟩
    · simp [taken, flushed, opened, lexemes]
  | closing =>
    cases clauses : a.clauses with
    | nil => simp [step, clauses] at stepped
    | cons clause outer =>
      simp only [step, clauses, Except.ok.injEq] at stepped
      subst stepped
      obtain ⟨before, each⟩ := List.forall_mem_cons.mp (clauses ▸ normal.clauses)
      refine ⟨marked_normal each before (flushed_normal normal) ?_, ?_⟩
      · intro other
        cases other <;> exact ⟨id, id⟩
      · simp only [taken, clauses, opened, lexemes_flushed, lexemes_append, lexemes_single,
          partLexemes]
        simp

/-- An assembly stays normal, and holds the lexemes that it took. -/
theorem steps_keep (normal : a.IsNormal) (ran : a.steps placed = .ok b) :
    b.IsNormal ∧ b.taken = a.taken ++ placed.map (·.lexeme) := by
  induction placed generalizing a with
  | nil =>
    cases ran
    exact ⟨normal, by simp⟩
  | cons lexeme rest ih =>
    rw [steps] at ran
    cases stepped : a.step lexeme with
    | error fault =>
      rw [stepped] at ran
      cases ran
    | ok next =>
      rw [stepped] at ran
      obtain ⟨kept, one⟩ := step_keeps normal stepped
      obtain ⟨kept, others⟩ := ih kept ran
      exact ⟨kept, by rw [others, one, List.map_cons, List.append_assoc, List.singleton_append]⟩

/-- A template that was put together is normal, and its lexemes are those it was made from. -/
theorem finished_of_steps {template : Template} (ran : steps {} placed = .ok a)
    (finished : a.finish = .ok template) :
    Template.IsNormal template ∧ lexemes template = placed.map (·.lexeme) := by
  have empty : IsNormal {} := ⟨by simp, trivial, by simp⟩
  obtain ⟨normal, taken⟩ := steps_keep empty ran
  rw [finish] at finished
  cases clauses : a.clauses with
  | nil =>
    simp only [clauses, Except.ok.injEq] at finished
    subst finished
    refine ⟨flushed_normal normal, ?_⟩
    simpa [Assembly.taken, clauses, opened, flushed, lexemes] using taken
  | cons clause outer =>
    rw [clauses] at finished
    cases finished

/-! ## A normal template is put together from its lexemes -/

theorem steps_characters {content : List Char} (a : Assembly)
    (spelled : placed.map (·.lexeme) = content.map .character) :
    a.steps placed = .ok { a with text := content.reverse ++ a.text } := by
  induction content generalizing a placed with
  | nil =>
    obtain rfl := List.map_eq_nil_iff.mp spelled
    rfl
  | cons c content ih =>
    obtain ⟨lexeme, rest, rfl, same, spelled⟩ := List.map_eq_cons_iff.mp spelled
    have stepped : a.step lexeme = .ok { a with text := c :: a.text } := by rw [step, same]
    rw [steps, stepped]
    simpa using ih _ spelled

/-- The parts that come after a pending text do not begin with a text. -/
def Admits (a : Assembly) (parts : List TemplatePart) : Prop :=
  a.text ≠ [] → ∀ first ∈ parts.head?, ∀ content, ¬ Touch (.text content) first

theorem steps_text {content : String} (settled : a.text = []) (nonempty : content ≠ "")
    (spelled : placed.map (·.lexeme) = partLexemes (.text content)) :
    ∃ b, a.steps placed = .ok b ∧ b.clauses = a.clauses ∧ b.text ≠ [] ∧
      b.flushed = a.flushed ++ [.text content] := by
  have pending : content.toList.reverse ++ a.text ≠ [] := by simp [settled, nonempty]
  refine ⟨_, steps_characters a spelled, rfl, pending, ?_⟩
  simp [flushed, settled, nonempty]

mutual

/-- The lexemes of a part that may follow add the part. -/
theorem steps_part (part : TemplatePart) (normal : IsNormalPart part) (a : Assembly)
    (admits : a.Admits [part]) (placed : List PlacedLexeme)
    (spelled : placed.map (·.lexeme) = partLexemes part) :
    ∃ b, a.steps placed = .ok b ∧ b.clauses = a.clauses ∧ b.flushed = a.flushed ++ [part] ∧
      (b.text ≠ [] → ∃ content, part = .text content) := by
  cases part with
  | text content =>
    have settled : a.text = [] := by
      by_contra pending
      exact admits pending _ rfl content trivial
    obtain ⟨b, ran, clauses, -, flushed⟩ := steps_text settled normal spelled
    exact ⟨b, ran, clauses, flushed, fun _ => ⟨content, rfl⟩⟩
  | reference name =>
    obtain ⟨lexeme, rfl, same⟩ := List.map_eq_singleton_iff.mp spelled
    refine ⟨{ a with parts := a.flushed ++ [.reference name], text := [] }, ?_, rfl, rfl, by simp⟩
    rw [steps_single, step, same]
  | optional parts =>
    obtain ⟨opening, rest, rfl, opens, spelledRest⟩ := List.map_eq_cons_iff.mp spelled
    obtain ⟨inner, last, rfl, spelledInner, spelledLast⟩ := List.map_eq_append_iff.mp spelledRest
    obtain ⟨closing, rfl, closes⟩ := List.map_eq_singleton_iff.mp spelledLast
    obtain ⟨b, ran, clauses, flushed⟩ := steps_lexemes parts normal
      ⟨⟨opening.offset, a.flushed⟩ :: a.clauses, [], []⟩ (fun pending => absurd rfl pending) inner
      spelledInner
    have opened : a.step opening = .ok ⟨⟨opening.offset, a.flushed⟩ :: a.clauses, [], []⟩ := by
      rw [step, opens]
    have closed : b.step closing = .ok ⟨a.clauses, a.flushed ++ [.optional parts], []⟩ := by
      rw [step, closes]
      simp only [clauses, flushed]
      rfl
    refine ⟨⟨a.clauses, a.flushed ++ [.optional parts], []⟩, ?_, rfl, rfl, by simp⟩
    rw [steps, opened]
    change steps _ (inner ++ [closing]) = _
    rw [steps_append, ran]
    exact (steps_single b closing).trans closed

/-- The lexemes of a normal template add its parts. -/
theorem steps_lexemes (parts : List TemplatePart) (normal : Template.IsNormal parts) (a : Assembly)
    (admits : a.Admits parts) (placed : List PlacedLexeme)
    (spelled : placed.map (·.lexeme) = lexemes parts) :
    ∃ b, a.steps placed = .ok b ∧ b.clauses = a.clauses ∧ b.flushed = a.flushed ++ parts := by
  cases parts with
  | nil =>
    obtain rfl := List.map_eq_nil_iff.mp spelled
    exact ⟨a, rfl, rfl, (List.append_nil _).symm⟩
  | cons part rest =>
    obtain ⟨first, apart, normal⟩ := normal
    obtain ⟨here, later, rfl, spelledHere, spelledLater⟩ := List.map_eq_append_iff.mp spelled
    obtain ⟨next, ran, clauses, flushed, pending⟩ :=
      steps_part part first a (fun pending => admits pending) here spelledHere
    have goesOn : next.Admits rest := by
      intro stillPending follows head other
      obtain ⟨content, rfl⟩ := pending stillPending
      have parted := apart follows head
      cases follows <;> simp [Touch] at parted ⊢
    obtain ⟨b, ranOn, clausesOn, flushedOn⟩ :=
      steps_lexemes rest normal next goesOn later spelledLater
    refine ⟨b, ?_, clausesOn.trans clauses, ?_⟩
    · rw [steps_append, ran]
      exact ranOn
    · rw [flushedOn, flushed, List.append_assoc, List.singleton_append]

end

/-- A normal template is put together from its lexemes. -/
theorem finishes_of_lexemes {template : Template} (normal : Template.IsNormal template)
    (spelled : placed.map (·.lexeme) = lexemes template) :
    ∃ a, steps {} placed = .ok a ∧ a.finish = .ok template := by
  obtain ⟨a, ran, clauses, flushed⟩ :=
    steps_lexemes template normal {} (fun pending => absurd rfl pending) placed spelled
  refine ⟨a, ran, ?_⟩
  rw [finish, clauses, flushed]
  rfl

end Assembly

end ColumnQuery
