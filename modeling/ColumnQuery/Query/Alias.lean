import ColumnQuery.Text.Basic

/-! Names of aggregations: how any text becomes a plain name, and how the names of a list are made
distinct. -/
namespace ColumnQuery.Alias
open Text

/-- The characters of a plain name. -/
def isNameChar (c : Char) : Bool :=
  c.isAlphanum || c == '_'

/-- Writes one underscore for each run of other characters. A run that has been written for already
is passed over first. -/
def collapse (inRun : Bool) : List Char → List Char
  | [] => []
  | c :: rest =>
    if isNameChar c then c :: collapse false rest
    else if inRun then collapse true rest
    else '_' :: collapse true rest

/-- The plain name made from a text: without blanks and underscores around it, and with every run of
other characters as one underscore. It may be empty. -/
def plain (name : String) : List Char :=
  strip (· == '_') (collapse false (strip isBlank name.toList))

/-- The plain name made from a text, or from a word when nothing of the text is left. -/
def sanitize (name fallback : String) : String :=
  match plain name with
  | [] => String.ofList (collapse false fallback.toList)
  | chars => String.ofList chars

/-- A name with a number. -/
def numbered (name : String) (n : Nat) : String :=
  name ++ "_" ++ toString n

/-- The first of `name_n`, `name_(n+1)`, … that is not taken, over as many numbers as `count` says. -/
def firstFree (taken : List String) (name : String) : Nat → Nat → String
  | 0, n => numbered name n
  | count + 1, n =>
    if numbered name n ∈ taken then firstFree taken name count (n + 1) else numbered name n

/-- The names met so far with the number of times that each was met, the latest count first. -/
abbrev Seen := List (String × Nat)

/-- Makes names distinct after others: a name that was met `k` times already is numbered from `k + 1`
on. -/
def distinctAfter (seen : Seen) : List String → List String
  | [] => []
  | name :: rest =>
    match seen.lookup name with
    | none => name :: distinctAfter ((name, 1) :: seen) rest
    | some count =>
      let met := (name, count + 1) :: seen
      let free := firstFree (met.map (·.1)) name met.length (count + 1)
      free :: distinctAfter ((free, 1) :: met) rest

/-- Names made distinct from left to right: a name stays if it is new, and gets a number if not. -/
def distinct (names : List String) : List String :=
  distinctAfter [] names

end ColumnQuery.Alias
