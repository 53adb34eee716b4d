import ColumnQuery.Proofs.Lexing.Phrases

/-! Which characters of a text stand between quotes. A scanner reads the text and knows nothing else:
a quote character opens a quoted region, and the same character closes it. Beside it the characters
of a text are marked by where they come from. What is written for a value is isolated: the scanner
leaves it outside quotes when it entered it outside, and every character of the value is scanned
between quotes. -/
namespace ColumnQuery
open Sql Text

/-- Where the scanner stands. -/
inductive Quoting
  | outside
  | inString
  | inName
deriving DecidableEq

namespace Quoting

/-- One character is read. -/
def step (state : Quoting) (c : Char) : Quoting :=
  match state with
  | .outside => if c = '\'' then .inString else if c = '"' then .inName else .outside
  | .inString => if c = '\'' then .outside else .inString
  | .inName => if c = '"' then .outside else .inName

/-- Where the scanner stands after a text. -/
def after (state : Quoting) (cs : List Char) : Quoting :=
  cs.foldl step state

/-- Every character of a text beside the state it is scanned in. -/
def scan (state : Quoting) : List Char → List (Quoting × Char)
  | [] => []
  | c :: rest => (state, c) :: scan (state.step c) rest

theorem after_append (state : Quoting) (first second : List Char) :
    state.after (first ++ second) = (state.after first).after second :=
  List.foldl_append

theorem scan_append (state : Quoting) (first second : List Char) :
    state.scan (first ++ second) = state.scan first ++ (state.after first).scan second := by
  induction first generalizing state with
  | nil => rfl
  | cons c rest ih => exact congrArg ((state, c) :: ·) (ih (state.step c))

end Quoting

/-- What a character of a written statement comes from: the text of the template, a name or a string
or a pattern, a quote in one of these, which is written twice, or what else a value is written
with. -/
inductive Origin
  | template
  | value
  | doubled
  | sign
deriving DecidableEq

/-- A character with its origin. -/
structure Marked where
  char : Char
  origin : Origin

/-- A character that opens and closes no region. -/
def isPlain (c : Char) : Bool :=
  c != '\'' && c != '"'

namespace Marked

/-- The characters without their origins. -/
def chars (marked : List Marked) : List Char :=
  marked.map char

@[simp] theorem chars_append (first second : List Marked) :
    chars (first ++ second) = chars first ++ chars second :=
  List.map_append

/-- A text whose characters all have one origin. -/
def all (origin : Origin) (cs : List Char) : List Marked :=
  cs.map (⟨·, origin⟩)

@[simp] theorem chars_all (origin : Origin) (cs : List Char) : chars (all origin cs) = cs := by
  simp [chars, all, Function.comp_def]

/-- The characters of a text between quotes. -/
def inside (quote : Char) : List Char → List Marked
  | [] => []
  | c :: rest =>
    if c = quote then ⟨quote, .doubled⟩ :: ⟨quote, .doubled⟩ :: inside quote rest
    else ⟨c, .value⟩ :: inside quote rest

/-- A text between quotes. -/
def quoted (quote : Char) (text : String) : List Marked :=
  ⟨quote, .sign⟩ :: (inside quote text.toList ++ [⟨quote, .sign⟩])

/-- Inside of quotes each quote is written twice. -/
theorem chars_inside (quote : Char) (cs : List Char) :
    chars (inside quote cs) = Text.doubled quote cs := by
  induction cs with
  | nil => rfl
  | cons c rest ih =>
    rw [inside, Text.doubled]
    split
    · exact congrArg (quote :: quote :: ·) ih
    · exact congrArg (c :: ·) ih

@[simp] theorem chars_quoted (quote : Char) (text : String) :
    chars (quoted quote text) = (Text.quoted quote text).toList := by
  rw [Text.quoted, String.toList_ofList, quoted, chars, List.map_cons, ← chars, chars_append,
    chars_inside]
  rfl

/-- Every character beside the state it is scanned in. The scanner does not see the origins. -/
def scan (state : Quoting) : List Marked → List (Quoting × Marked)
  | [] => []
  | c :: rest => (state, c) :: scan (state.step c.char) rest

theorem scan_chars (state : Quoting) (marked : List Marked) :
    (scan state marked).map (fun (state, c) => (state, c.char)) = state.scan (chars marked) := by
  induction marked generalizing state with
  | nil => rfl
  | cons c rest ih => exact congrArg ((state, c.char) :: ·) (ih (state.step c.char))

theorem scan_append (state : Quoting) (first second : List Marked) :
    scan state (first ++ second) =
      scan state first ++ scan (state.after (chars first)) second := by
  induction first generalizing state with
  | nil => rfl
  | cons c rest ih => exact congrArg ((state, c) :: ·) (ih (state.step c.char))

/-- Outside quotes before means outside quotes behind, the template has no part in it, and every
character of a value is scanned between quotes. -/
structure IsIsolated (marked : List Marked) : Prop where
  closed : Quoting.outside.after (chars marked) = .outside
  foreign : ∀ c ∈ marked, c.origin ≠ .template
  between : ∀ state c, (state, c) ∈ scan .outside marked → c.origin = .value → state ≠ .outside

theorem isolated_nil : IsIsolated [] :=
  ⟨rfl, by simp, by simp [scan]⟩

/-- What is isolated stays so when more of it follows. -/
theorem isolated_append {first second : List Marked} (before : IsIsolated first)
    (behind : IsIsolated second) : IsIsolated (first ++ second) where
  closed := by rw [chars_append, Quoting.after_append, before.closed, behind.closed]
  foreign := List.forall_mem_append.mpr ⟨before.foreign, behind.foreign⟩
  between state c member := by
    rw [scan_append, before.closed] at member
    rcases List.mem_append.mp member with member | member
    · exact before.between state c member
    · exact behind.between state c member

theorem mem_of_scan {state entered : Quoting} {c : Marked} {marked : List Marked}
    (scanned : (state, c) ∈ scan entered marked) : c ∈ marked := by
  induction marked generalizing entered with
  | nil => cases scanned
  | cons first rest ih =>
    rcases List.mem_cons.mp scanned with same | later
    · cases same
      exact .head _
    · exact .tail _ (ih later)

/-- Where there is no quote, the scanner stays outside. -/
theorem isolated_signs {cs : List Char} (plain : cs.all isPlain = true) :
    IsIsolated (all .sign cs) where
  closed := by
    rw [chars_all]
    induction cs with
    | nil => rfl
    | cons c rest ih =>
      obtain ⟨here, later⟩ := Bool.and_eq_true_iff.mp plain
      have noQuote : c ≠ '\'' ∧ c ≠ '"' := by simpa [isPlain] using here
      have stays : Quoting.outside.step c = .outside := by simp [Quoting.step, noQuote]
      rw [Quoting.after, List.foldl_cons, stays]
      exact ih later
  foreign c member := by
    obtain ⟨_, _, rfl⟩ := List.mem_map.mp member
    simp
  between state c scanned value := by
    obtain ⟨_, _, rfl⟩ := List.mem_map.mp (mem_of_scan scanned)
    cases value

/-- A quote encloses a region: it opens and closes it, and no other character ends it. -/
structure Encloses (quote : Char) (region : Quoting) : Prop where
  opens : Quoting.outside.step quote = region
  closes : region.step quote = .outside
  holds : ∀ c, c ≠ quote → region.step c = region
  within : region ≠ .outside

theorem encloses_string : Encloses '\'' .inString :=
  ⟨rfl, rfl, fun _ other => if_neg other, by decide⟩

theorem encloses_name : Encloses '"' .inName :=
  ⟨rfl, rfl, fun _ other => if_neg other, by decide⟩

theorem foreign_inside (quote : Char) (cs : List Char) :
    ∀ c ∈ inside quote cs, c.origin ≠ .template := by
  induction cs with
  | nil => simp [inside]
  | cons first rest ih =>
    rw [inside]
    split
    · simpa using ih
    · simpa using ih

section Quoted

variable {quote : Char} {region : Quoting} (encloses : Encloses quote region)
include encloses

/-- Behind every doubled quote the scanner is back in the region. -/
theorem after_inside (cs : List Char) : region.after (chars (inside quote cs)) = region := by
  induction cs with
  | nil => rfl
  | cons c rest ih =>
    rw [inside]
    split
    · change ((region.step quote).step quote).after (chars (inside quote rest)) = region
      rw [encloses.closes, encloses.opens, ih]
    · next other =>
      change (region.step c).after (chars (inside quote rest)) = region
      rw [encloses.holds c other, ih]

/-- A character of a value stands inside, whatever quotes are in the value. -/
theorem between_inside (cs : List Char) {state : Quoting} {c : Marked}
    (scanned : (state, c) ∈ scan region (inside quote cs)) (value : c.origin = .value) :
    state ≠ .outside := by
  induction cs with
  | nil => cases scanned
  | cons first rest ih =>
    rw [inside] at scanned
    split at scanned
    · rw [scan, scan, encloses.closes, encloses.opens] at scanned
      rcases List.mem_cons.mp scanned with same | later
      · cases same
        cases value
      · rcases List.mem_cons.mp later with same | later
        · cases same
          cases value
        · exact ih later
    · next other =>
      rw [scan, encloses.holds first other] at scanned
      rcases List.mem_cons.mp scanned with same | later
      · cases same
        exact encloses.within
      · exact ih later

/-- A text between quotes is isolated, whatever quotes are in it. -/
theorem isolated_quoted (text : String) : IsIsolated (quoted quote text) where
  closed := by
    change (Quoting.outside.step quote).after (chars (inside quote text.toList ++ _)) = .outside
    rw [encloses.opens, chars_append, Quoting.after_append, after_inside encloses]
    exact encloses.closes
  foreign := by
    have signs : ∀ c ∈ [(⟨quote, .sign⟩ : Marked)], c.origin ≠ .template := by simp
    exact List.forall_mem_append.mpr ⟨signs, List.forall_mem_append.mpr ⟨foreign_inside _ _, signs⟩⟩
  between state c scanned value := by
    rw [quoted, scan, encloses.opens, scan_append, after_inside encloses] at scanned
    rcases List.mem_cons.mp scanned with same | later
    · cases same
      cases value
    · rcases List.mem_append.mp later with inner | last
      · exact between_inside encloses _ inner value
      · cases List.mem_singleton.mp last
        cases value

end Quoted

end Marked

open Marked Lexing

/-- A literal with the origins of its characters. -/
def Sql.Literal.marked (literal : Literal) : List Marked :=
  match literal with
  | .text value => quoted '\'' value
  | .uuid value => quoted '\'' value.text
  | .temporal value => quoted '\'' value.text
  | value => all .sign value.sql.toList

/-- A token with the origins of its characters. -/
def Sql.Token.marked : Token → List Marked
  | .identifier name => quoted '"' name
  | .literal value => value.marked
  | token => all .sign token.text.toList

/-- A phrase with the origins of its characters. -/
def Sql.Phrase.marked (phrase : Phrase) : List Marked :=
  phrase.flatMap Token.marked

theorem chars_literal (literal : Literal) : chars literal.marked = literal.sql.toList := by
  cases literal with
  | text value => exact chars_quoted '\'' value
  | uuid value => exact chars_quoted '\'' value.text
  | temporal value => exact chars_quoted '\'' value.text
  | _ => exact chars_all _ _

/-- Marking the characters of a token changes none of them. -/
theorem chars_token (token : Token) : chars token.marked = token.text.toList := by
  cases token with
  | identifier name => exact chars_quoted '"' name
  | literal value => exact chars_literal value
  | _ => exact chars_all _ _

/-- The marks are on exactly the characters that are written. -/
theorem chars_phrase (phrase : Phrase) : chars phrase.marked = (Phrase.text phrase).toList := by
  induction phrase with
  | nil => rfl
  | cons token rest ih =>
    rw [Phrase.text, String.toList_append, ← chars_token, ← ih, ← chars_append]
    rfl

/-- No character of a class without the quotes is a quote. -/
theorem plain_of_class {p : Char → Bool} (string : p '\'' = false) (name : p '"' = false) {c : Char}
    (inside : p c = true) : isPlain c = true := by
  have noString : c ≠ '\'' := by
    rintro rfl
    simp [string] at inside
  have noName : c ≠ '"' := by
    rintro rfl
    simp [name] at inside
  simp [isPlain, noString, noName]

theorem number_is_plain {text : List Char} (number : Decimal.IsNumber text) :
    text.all isPlain = true :=
  List.all_eq_true.mpr fun c member =>
    plain_of_class rfl rfl (Decimal.number_spelled number c member)

theorem word_is_plain {text : List Char} (word : isWord text = true) :
    text.all isPlain = true := by
  cases text with
  | nil => rfl
  | cons first more =>
    simp only [isWord, Bool.and_eq_true, List.all_eq_true] at word
    rw [List.all_cons, Bool.and_eq_true, List.all_eq_true]
    exact ⟨plain_of_class rfl rfl word.1, fun c member => plain_of_class rfl rfl (word.2 c member)⟩

/-- A literal keeps its value inside of quotes and closes them. -/
theorem isolated_literal (literal : Literal) : IsIsolated literal.marked := by
  cases literal with
  | null => exact isolated_signs (by decide)
  | text value => exact isolated_quoted encloses_string value
  | integer value => exact isolated_signs (number_is_plain (Decimal.number_int value.toInt))
  | real value =>
    refine isolated_signs ?_
    change (realText value).toList.all isPlain = true
    rw [realText]
    split
    · exact number_is_plain (Decimal.number_compact value)
    · decide
  | boolean value => cases value <;> exact isolated_signs (by decide)
  | uuid value => exact isolated_quoted encloses_string value.text
  | temporal value => exact isolated_quoted encloses_string value.text

/-- Every token by itself is isolated, a function when its name is a word. -/
theorem isolated_token {token : Token}
    (functions : ∀ name, token = .function name → IsFunction name) : IsIsolated token.marked := by
  cases token with
  | keyword word => cases word <;> exact isolated_signs (by decide)
  | mark sign => cases sign <;> exact isolated_signs (by decide)
  | space => exact isolated_signs (by decide)
  | identifier name => exact isolated_quoted encloses_name name
  | literal value => exact isolated_literal value
  | function name => exact isolated_signs (word_is_plain (functions name rfl).word)

/-- A readable phrase keeps every value inside of quotes and closes them. -/
theorem isolated_phrase {phrase : Phrase} (readable : Readable phrase) :
    IsIsolated phrase.marked := by
  have functions := readable.functions
  clear readable
  induction phrase with
  | nil => exact isolated_nil
  | cons token rest ih =>
    have first := isolated_token fun name same => functions name (same ▸ .head _)
    exact isolated_append first (ih fun name member => functions name (.tail _ member))

end ColumnQuery
