import ColumnQuery.Template.Lexeme

/-! The second step of reading a template: lexemes are put together to parts, and parts to optional
clauses. Of several faults the leftmost is reported, and a clause that stays open is a fault at the
end. -/
namespace ColumnQuery

/-- An optional clause that is not closed yet: its place, and the parts before it. -/
structure OpenClause where
  offset : Nat
  before : List TemplatePart

/-- How far a template has been put together: the clauses that are open, the innermost first, the
parts of the innermost one, and the text since the last of them, the last character first. -/
structure Assembly where
  clauses : List OpenClause := []
  parts : List TemplatePart := []
  text : List Char := []

namespace Assembly

/-- The parts of the innermost clause with the pending text as their last, if there is any. -/
def flushed (a : Assembly) : List TemplatePart :=
  if a.text.isEmpty then a.parts else a.parts ++ [.text (String.ofList a.text.reverse)]

/-- Takes up one lexeme. -/
def step (a : Assembly) (placed : PlacedLexeme) : Except TemplateError Assembly :=
  match placed.lexeme with
  | .character c => .ok { a with text := c :: a.text }
  | .reference name => .ok { a with parts := a.flushed ++ [.reference name], text := [] }
  | .opening => .ok ⟨⟨placed.offset, a.flushed⟩ :: a.clauses, [], []⟩
  | .closing =>
    match a.clauses with
    | [] => .error (.unbalancedClose placed.offset)
    | clause :: outer => .ok ⟨outer, clause.before ++ [.optional a.flushed], []⟩

/-- Takes up lexemes one after the other. -/
def steps (a : Assembly) : List PlacedLexeme → Except TemplateError Assembly
  | [] => .ok a
  | placed :: rest =>
    match a.step placed with
    | .error fault => .error fault
    | .ok next => next.steps rest

/-- The template, when every clause is closed. -/
def finish (a : Assembly) : Except TemplateError Template :=
  match a.clauses with
  | [] => .ok a.flushed
  | clause :: _ => .error (.unclosedGroup clause.offset)

end Assembly

/-- The template that lexemes make. A fault of theirs comes after every fault among them. -/
def Template.ofLexed (lexed : Lexed) : Except TemplateError Template :=
  match Assembly.steps {} lexed.lexemes with
  | .error fault => .error fault
  | .ok assembly =>
    match lexed.fault with
    | some fault => .error fault
    | none => assembly.finish

/-- Reads a template. -/
def Template.ofText (text : String) : Except TemplateError Template :=
  Template.ofLexed (Lexed.ofText text)

end ColumnQuery
