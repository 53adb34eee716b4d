import ColumnQuery.Toml.Scalar

/-! Reading TOML documents. A document is read line by line: a header decides to which table the
entries after it belong. A text that breaks any rule has no value. -/
namespace ColumnQuery.Toml
open ColumnQuery.Text

/-- The characters of keys without quotes. -/
def isKeyChar (c : Char) : Bool :=
  c.isAlphanum || c == '_' || c == '-'

/-- The text after its leading blanks. -/
def skipSpace (cs : List Char) : Remainder cs :=
  Remainder.skip isSpace cs

/-- Reads one part of a key: plain, or a string of one line. -/
def readKeyPart (cs : List Char) : Option (String × Shorter cs) :=
  match cs with
  | [] => none
  | '"' :: rest =>
    (readBasic rest).map fun (chars, after) =>
      (String.ofList chars, Shorter.ofTail after.toRemainder)
  | '\'' :: rest =>
    (readLiteral rest).map fun (chars, after) =>
      (String.ofList chars, Shorter.ofTail after.toRemainder)
  | c :: rest =>
    if isKeyChar c then
      some (String.ofList (c :: rest.takeWhile isKeyChar),
        Shorter.ofTail (Remainder.skip isKeyChar rest))
    else none

/-- The greatest number of arrays and inline tables in one another, and of parts in a key. -/
def maxDepth : Nat :=
  80

/-- Reads the parts of a key with dots between them, and the blanks after it. The last part is given
apart. -/
def readKeyParts (cs : List Char) : Option (List String × String × Shorter cs) :=
  match readKeyPart cs with
  | none => none
  | some (part, after) =>
    let gap := after.trans (skipSpace after.1)
    match Shorter.after? '.' gap.1 with
    | none => some ([], part, gap)
    | some dot =>
      let next := gap.transShorter (dot.trans (skipSpace dot.1))
      (readKeyParts next.1).map fun (path, last, rest) =>
        (part :: path, last, next.transShorter rest)
termination_by cs.length
decreasing_by exact next.2

/-- Reads a key and the blanks after it. -/
def readKey (cs : List Char) : Option (List String × String × Shorter cs) :=
  (readKeyParts cs).filter fun (path, _) => path.length < maxDepth

/-- Skips a comment, if one comes: it ends before the end of the line and holds no control
character. -/
def skipComment (cs : List Char) : Remainder cs :=
  match cs with
  | '#' :: rest => (Shorter.ofTail (Remainder.skip isPrintable rest)).toRemainder
  | _ => Remainder.all _

/-- Skips blanks, line breaks and comments. -/
def skipLines (cs : List Char) : Remainder cs :=
  let mid := skipSpace cs
  let line := mid.trans (skipComment mid.1)
  match readLineEnd line.1 with
  | none => line
  | some next =>
    let after := line.transShorter next
    after.toRemainder.trans (skipLines after.1)
termination_by cs.length
decreasing_by exact after.2

mutual

/-- Reads a value; `depth` arrays and inline tables may be nested in it. -/
def readValue (depth : Nat) (cs : List Char) : Option (Toml × Remainder cs) :=
  match depth, cs with
  | depth + 1, '[' :: rest =>
    let start := skipLines rest
    match Shorter.after? ']' start.1 with
    | some after =>
      some (.array false [], (Shorter.ofTail (start.trans after.toRemainder)).toRemainder)
    | none =>
      match readItems depth start.1 with
      | none => none
      | some (items, after) =>
        some (.array false items, (Shorter.ofTail (start.trans after)).toRemainder)
  | depth + 1, '\x7b' :: rest =>
    let start := skipLines rest
    match Shorter.after? '\x7d' start.1 with
    | some after =>
      some (.table .inline [], (Shorter.ofTail (start.trans after.toRemainder)).toRemainder)
    | none =>
      match readInline depth [] start.1 with
      | none => none
      | some (entries, after) =>
        some (.table .inline entries, (Shorter.ofTail (start.trans after)).toRemainder)
  | _, '"' :: rest =>
    (readString ('"' :: rest)).map fun (text, after) => (.string text, after.toRemainder)
  | _, '\'' :: rest =>
    (readString ('\'' :: rest)).map fun (text, after) => (.string text, after.toRemainder)
  | _, plain => readScalar plain
termination_by 2 * cs.length
decreasing_by
  · exact (Shorter.ofTail (skipLines rest)).twice_lt
  · exact (Shorter.ofTail (skipLines rest)).twice_lt

/-- Reads the items of an array from the first one to after the closing bracket. A comma may follow
the last. -/
def readItems (depth : Nat) (cs : List Char) : Option (List Toml × Remainder cs) :=
  match readValue depth cs with
  | none => none
  | some (item, after) =>
    let gap := after.trans (skipLines after.1)
    match Shorter.after? ',' gap.1 with
    | none => (Shorter.after? ']' gap.1).map fun rest => ([item], gap.trans rest.toRemainder)
    | some comma =>
      let next := gap.transShorter (comma.trans (skipLines comma.1))
      match Shorter.after? ']' next.1 with
      | some rest => some ([item], (next.trans rest.toRemainder).toRemainder)
      | none =>
        match readItems depth next.1 with
        | none => none
        | some (items, rest) => some (item :: items, next.toRemainder.trans rest)
termination_by 2 * cs.length + 1
decreasing_by
  · exact Nat.lt_succ_self _
  · exact Nat.lt_succ_of_lt next.twice_lt

/-- Reads the entries of an inline table after those already read, to after the closing brace. A
comma may follow the last, and line breaks may stand anywhere but within a key. -/
def readInline (depth : Nat) (entries : Entries) (cs : List Char) :
    Option (Entries × Remainder cs) :=
  match readKey cs with
  | none => none
  | some (path, last, key) =>
    let afterKey := key.trans (skipLines key.1)
    match Shorter.after? '=' afterKey.1 with
    | none => none
    | some sign =>
      let start := afterKey.transShorter (sign.trans (skipLines sign.1))
      match readValue depth start.1 with
      | none => none
      | some (value, after) =>
        match addDotted path last value entries with
        | none => none
        | some extended =>
          let gap := start.trans (after.trans (skipLines after.1))
          match Shorter.after? ',' gap.1 with
          | none =>
            (Shorter.after? '\x7d' gap.1).map fun rest =>
              (extended, (gap.transShorter rest).toRemainder)
          | some comma =>
            let next := gap.transShorter (comma.trans (skipLines comma.1))
            match Shorter.after? '\x7d' next.1 with
            | some rest => some (extended, (next.trans rest.toRemainder).toRemainder)
            | none =>
              match readInline depth extended next.1 with
              | none => none
              | some (all, rest) => some (all, next.toRemainder.trans rest)
termination_by 2 * cs.length + 1
decreasing_by
  · exact Nat.lt_succ_of_lt (Nat.lt_of_succ_lt start.twice_lt)
  · exact Nat.lt_succ_of_lt next.twice_lt

end

/-- Reads the end of a line: blanks, a comment, and the line break or the end of the document. -/
def readRestOfLine (cs : List Char) : Option (Remainder cs) :=
  let mid := skipSpace cs
  let line := mid.trans (skipComment mid.1)
  match readLineEnd line.1 with
  | some next => some (line.transShorter next).toRemainder
  | none => if line.1.isEmpty then some line else none

/-- One statement of a document: the header of a table, the header of an item of an array, or an
entry. -/
inductive Statement
  | table (path : List String) (last : String)
  | item (path : List String) (last : String)
  | entry (path : List String) (last : String) (value : Toml)

/-- Reads the key of a header, from after the opening brackets to after the closing ones. -/
def readHeader (close : List Char) (cs : List Char) :
    Option (List String × String × Shorter cs) := do
  let start := skipSpace cs
  let (path, last, after) ← readKey start.1
  let rest ← Remainder.after? close after.1
  return (path, last, start.transShorter (after.trans rest))

/-- Reads an entry. -/
def readEntry (cs : List Char) : Option (Statement × Shorter cs) := do
  let (path, last, afterKey) ← readKey cs
  let sign ← Shorter.after? '=' afterKey.1
  let start := skipSpace sign.1
  let (value, after) ← readValue maxDepth start.1
  return (.entry path last value,
    afterKey.transShorter (sign.trans (start.trans after)))

/-- Reads one statement. -/
def readStatement (cs : List Char) : Option (Statement × Shorter cs) :=
  match cs with
  | '[' :: '[' :: rest =>
    (readHeader [']', ']'] rest).map fun (path, last, after) =>
      (.item path last, ⟨after.1, by have := after.2; simp; omega⟩)
  | '[' :: rest =>
    (readHeader [']'] rest).map fun (path, last, after) =>
      (.table path last, Shorter.ofTail after.toRemainder)
  | other => readEntry other

/-- Reads the statements of a document, each to the end of its line. -/
def readStatements (cs : List Char) : Option (List Statement) :=
  let start := skipLines cs
  if start.1.isEmpty then some []
  else
    match readStatement start.1 with
    | none => none
    | some (statement, after) =>
      match readRestOfLine after.1 with
      | none => none
      | some line =>
        let next := start.transShorter (after.trans line)
        (readStatements next.1).map (statement :: ·)
termination_by cs.length
decreasing_by exact next.2

/-- The entries of a document after one more statement, where the last header led along `current`. -/
def Statement.apply (current : List String) (entries : Entries) :
    Statement → Option (List String × Entries)
  | .table path last => (alterAt (openTable last) path entries).map (path ++ [last], ·)
  | .item path last => (alterAt (openItem last) path entries).map (path ++ [last], ·)
  | .entry path last value =>
    (alterAt (addDotted path last value) current entries).map (current, ·)

/-- The entries that statements give a document. -/
def build (current : List String) (entries : Entries) : List Statement → Option Entries
  | [] => some entries
  | statement :: rest =>
    match statement.apply current entries with
    | none => none
    | some (next, extended) => build next extended rest

/-- The entries of a document, none when the text is no document. A byte order mark may come
first. -/
def read? (text : String) : Option Entries :=
  let cs :=
    match text.toList with
    | '\ufeff' :: rest => rest
    | other => other
  (readStatements cs).bind (build [] [])

end ColumnQuery.Toml
