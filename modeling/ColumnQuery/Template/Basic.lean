/-! Templates: hand-written statements with references to parameters, written between double braces,
and with optional clauses between double brackets, which may be nested. -/
namespace ColumnQuery

/-- A part of a template. -/
inductive TemplatePart
  | text (content : String)
  | reference (name : String)
  | optional (parts : List TemplatePart)
deriving Inhabited

/-- A template, part by part. -/
abbrev Template := List TemplatePart

mutual

/-- The parameters that a part refers to, in their order. -/
def TemplatePart.references : TemplatePart → List String
  | .text _ => []
  | .reference name => [name]
  | .optional parts => Template.references parts

/-- The parameters that a template refers to, in their order; one may occur more than once. -/
def Template.references : List TemplatePart → List String
  | [] => []
  | part :: rest => part.references ++ Template.references rest

end

/-- Why a text is no template. Every place is counted in bytes from the start of the text. -/
inductive TemplateError
  | unterminatedReference (offset : Nat)
  | emptyReference (offset : Nat)
  | invalidName (name : String) (offset : Nat)
  | unclosedGroup (offset : Nat)
  | unbalancedClose (offset : Nat)
deriving DecidableEq

/-- The text of the reason. -/
def TemplateError.message : TemplateError → String
  | .unterminatedReference offset =>
    "Unterminated parameter reference at byte " ++ toString offset
  | .emptyReference offset => "Empty parameter reference at byte " ++ toString offset
  | .invalidName name offset =>
    "Invalid parameter name '" ++ name ++ "' at byte " ++ toString offset
  | .unclosedGroup offset =>
    "Optional clause opened at byte " ++ toString offset ++ " is never closed"
  | .unbalancedClose offset => "Unexpected ']]' at byte " ++ toString offset

end ColumnQuery
