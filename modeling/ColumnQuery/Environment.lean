import ColumnQuery.Text.Remainder

/-! References to environment variables in a text, written `$NAME` or with the name between braces,
and their replacement. A value that is put in is not looked at again, and a dollar sign without a
name stays as it is. -/
namespace ColumnQuery
open Text

/-- The variables of the environment by their names. One whose value is not Unicode text counts as
missing. -/
abbrev Environment := String → Option String

namespace Environment

/-- The characters that a name begins with. -/
def isNameStart (c : Char) : Bool :=
  c.isAlpha || c == '_'

/-- The characters that a name goes on with. -/
def isNamePart (c : Char) : Bool :=
  c.isAlphanum || c == '_'

/-- The longest name that a text begins with. -/
def name? (cs : List Char) : Option (List Char × Shorter cs) :=
  match cs with
  | [] => none
  | c :: rest =>
    if isNameStart c then
      some (c :: rest.takeWhile isNamePart, Shorter.ofTail (Remainder.skip isNamePart rest))
    else none

/-- The name between braces that a text begins with. -/
def braced? (cs : List Char) : Option (List Char × Shorter cs) := do
  let opened ← Shorter.after? '\x7b' cs
  let (name, rest) ← name? opened.1
  let closed ← Shorter.after? '\x7d' rest.1
  return (name, opened.transShorter (rest.transShorter closed))

/-- The name that a text refers to at its beginning. -/
def reference? (cs : List Char) : Option (List Char × Shorter cs) := do
  let dollar ← Shorter.after? '$' cs
  let (name, rest) ← (braced? dollar.1).or (name? dollar.1)
  return (name, dollar.transShorter rest)

/-- The first reference of a text: what stands before it, its name, and what follows it. -/
def firstReference? (cs : List Char) : Option (List Char × List Char × Shorter cs) :=
  match reference? cs with
  | some (name, rest) => some ([], name, rest)
  | none =>
    match cs with
    | [] => none
    | c :: tail =>
      (firstReference? tail).map fun (before, name, rest) =>
        (c :: before, name, Shorter.ofTail rest.toRemainder)

/-- Replaces every reference by the value of its variable; the first variable that there is none of
is the error. -/
def expandChars (env : Environment) (cs : List Char) : Except String (List Char) :=
  match firstReference? cs with
  | none => .ok cs
  | some (before, name, rest) =>
    match env (String.ofList name) with
    | none => .error (String.ofList name)
    | some value => (expandChars env rest.1).map fun expanded => before ++ value.toList ++ expanded
termination_by cs.length
decreasing_by exact rest.2

/-- Replaces every reference in a text. -/
def expand (env : Environment) (text : String) : Except String String :=
  (expandChars env text.toList).map String.ofList

/-- The names that a text refers to. -/
def referenced (cs : List Char) : List String :=
  match firstReference? cs with
  | none => []
  | some (_, name, rest) => String.ofList name :: referenced rest.1
termination_by cs.length
decreasing_by exact rest.2

end Environment

end ColumnQuery
