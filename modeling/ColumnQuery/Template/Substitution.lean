import ColumnQuery.Options
import ColumnQuery.Param.Basic
import ColumnQuery.Template.Reader

/-! Substitution: a template and values for its parameters become a statement with every value
inlined. An optional clause is left out when a parameter that stands directly in it has nothing to
inline, and columns are looked up only as they are written. -/
namespace ColumnQuery
open Sql

/-- Why a template cannot be substituted. -/
inductive SubstitutionError
  | missingRequired (name : String)
  | unresolved (cause : LookupError)
  | template (fault : TemplateError)
  | missingParameter (name : String)
  | missingFilterValue (field : String)
deriving DecidableEq

namespace SubstitutionError

/-- A failed rendering as a reason why a template cannot be substituted. -/
def ofRender : RenderError → SubstitutionError
  | .unresolved cause => .unresolved cause
  | .missingParameter name => .missingParameter name
  | .missingFilterValue field => .missingFilterValue field

/-- The text of the reason. -/
def message : SubstitutionError → String
  | .missingRequired name => "Missing required parameter '" ++ name ++ "'"
  | .unresolved cause => "Unresolved field: " ++ cause.message
  | .template fault => "Template syntax error: " ++ fault.message
  | .missingParameter name => (RenderError.missingParameter name).message
  | .missingFilterValue field => (RenderError.missingFilterValue field).message

end SubstitutionError

/-- A template with every parameter inlined, and the options that travel with it. No parameters are
left to bind. -/
structure SubstitutedQuery where
  text : String
  options : Options := {}

/-- The substituted query as a JSON object. -/
def SubstitutedQuery.toJson (query : SubstitutedQuery) : Json :=
  .object ([("query", .string query.text), ("params", .array [])] ++ query.options.member)

namespace Template

/-- Whether a part keeps the clause that it stands directly in: all parts do but references to
parameters with nothing to inline. -/
def keeps (params : Params) : TemplatePart → Bool
  | .reference name => Param.hasValue (params.find? name)
  | .text _ => true
  | .optional _ => true

/-- Whether an optional clause is written. -/
def isLive (params : Params) (parts : List TemplatePart) : Bool :=
  parts.all (keeps params)

/-- Makes sure that the column of a field filter has a name. -/
def ensureColumn (names : FieldNames) : Param → Asking LookupError FieldNames
  | .fieldFilter filter => names.ensure filter.field
  | _ => return names

/-- Writes the value of a parameter, which may need a lookup. -/
def writeReference (params : Params) (names : FieldNames) (name : String) :
    Asking SubstitutionError (FieldNames × String) :=
  match params.find? name with
  | none => Asking.fail (.missingRequired name)
  | some param => do
    let names ← (ensureColumn names param).mapError .unresolved
    let phrase ← Asking.ofExcept ((param.phrase names name).mapError SubstitutionError.ofRender)
    return (names, Phrase.text phrase)

mutual

/-- Writes a part, with the names that are known before and after it. -/
def writePart (params : Params) (names : FieldNames) :
    TemplatePart → Asking SubstitutionError (FieldNames × String)
  | .text content => return (names, content)
  | .reference name => writeReference params names name
  | .optional parts => if isLive params parts then write params names parts else return (names, "")

/-- Writes the parts of a template one after the other. -/
def write (params : Params) (names : FieldNames) :
    List TemplatePart → Asking SubstitutionError (FieldNames × String)
  | [] => return (names, "")
  | part :: rest => do
    let (names, first) ← writePart params names part
    let (names, others) ← write params names rest
    return (names, first ++ others)

end

/-- Substitutes values into a template, with a timeout for whatever runs the result. Blanks around
the whole are dropped. -/
def substitute (template : Template) (params : Params) (timeout : Option Duration) :
    Asking SubstitutionError SubstitutedQuery := do
  let (_, text) ← write params {} template
  return { text := Text.trim text, options := Options.withTimeout? {} timeout }

/-- Reads a template and substitutes values into it. -/
def substituteText (text : String) (params : Params) (timeout : Option Duration) :
    Asking SubstitutionError SubstitutedQuery := do
  let template ← Asking.ofExcept ((Template.ofText text).mapError .template)
  template.substitute params timeout

end Template

end ColumnQuery
