import ColumnQuery.Metadata.Catalog
import ColumnQuery.Proofs.FieldNames
import ColumnQuery.Proofs.Lexing.Compiled
import ColumnQuery.Proofs.Quoting
import ColumnQuery.Proofs.Template.Live

/-! No value that is inlined reaches into the text of a template. Wherever the live references of a
template stand outside quotes, every character of the template is scanned as if nothing had been
inlined, and every character of a name, a string or a pattern is scanned between quotes. -/
namespace ColumnQuery
open Sql

namespace Template

variable {params : Params} {names more : FieldNames} {metadata : Metadata}
  {lookups later : List Lookup}

/-! ## What is written for a parameter -/

/-- The phrase that is written for a reference, once the columns have names. -/
def referencePhrase (params : Params) (names : FieldNames) (name : String) : Phrase :=
  match params.find? name with
  | none => []
  | some param =>
    match param.phrase names name with
    | .ok phrase => phrase
    | .error _ => []

/-- Values become phrases that can be read again, whatever their kinds are. -/
theorem readable_param {name : String} {param : Param} {phrase : Phrase}
    (made : param.phrase names name = .ok phrase) : Lexing.Readable phrase := by
  cases param with
  | noValue => cases made
  | scalar value =>
    cases made
    simp
  | list values =>
    have listed := Lexing.readable_values values
    rw [Param.phrase] at made
    split at made
    · next found =>
      cases made
      rwa [found] at listed
    · cases made
  | fieldFilter filter =>
    rw [Param.phrase, Param.filterPhrase] at made
    split at made
    · exact Lexing.readable_predicate made
    · cases made

theorem readable_reference (params : Params) (names : FieldNames) (name : String) :
    Lexing.Readable (referencePhrase params names name) := by
  unfold referencePhrase
  split
  · exact Lexing.readable_nil
  · split
    · next made => exact readable_param made
    · exact Lexing.readable_nil

/-- What is written for a parameter stays the same when more columns get names. -/
theorem phrase_kept {name : String} {param : Param} {phrase : Phrase} (kept : names.IsKept more)
    (made : param.phrase names name = .ok phrase) : param.phrase more name = .ok phrase := by
  cases param with
  | fieldFilter filter =>
    rw [Param.phrase, Param.filterPhrase] at made ⊢
    split at made
    · next found =>
      rw [kept.nameOf found]
      exact made
    · cases made
  | _ => exact made

theorem ensureColumn_kept {param : Param}
    (ended : ensureColumn names param metadata lookups = ⟨.ok more, later⟩) :
    names.IsKept more := by
  cases param with
  | fieldFilter filter => exact (FieldNames.ensure_ok ended).1
  | _ =>
    cases ended
    exact .refl names

/-- A reference that is written has a value, and is written as the phrase of it. -/
theorem writeReference_ok {name text : String}
    (ended : writeReference params names name metadata lookups = ⟨.ok (more, text), later⟩) :
    names.IsKept more ∧ ∃ param phrase, params.find? name = some param ∧
      param.phrase more name = .ok phrase ∧ text = Phrase.text phrase := by
  cases given : params.find? name with
  | none =>
    rw [writeReference, given] at ended
    cases ended
  | some param =>
    cases ready : ensureColumn names param metadata lookups with
    | mk result between =>
      cases result with
      | error cause =>
        rw [writeReference_unresolved given ready] at ended
        cases ended
      | ok known =>
        rw [writeReference_ready given ready] at ended
        obtain ⟨phrase, made, same⟩ := Outcome.ok_of_map (congrArg Asked.result ended)
        cases same
        exact ⟨ensureColumn_kept ready, param, phrase, rfl, Outcome.ok_of_mapError made, rfl⟩

/-! ## The characters of the output -/

/-- A fragment as it is written, with the origins of its characters. -/
def markedFragment (params : Params) (names : FieldNames) : Fragment → List Marked
  | .text content => Marked.all .template content.toList
  | .reference name => (referencePhrase params names name).marked

/-- Fragments as they are written, with the origins of their characters. -/
def markedAll (params : Params) (names : FieldNames) (fragments : List Fragment) : List Marked :=
  fragments.flatMap (markedFragment params names)

/-- The characters of a fragment are the same marked or not. -/
theorem writeFragment_marked {fragment : Fragment} {text : String}
    (ended : writeFragment params names fragment metadata lookups = ⟨.ok (more, text), later⟩) :
    names.IsKept more ∧ ∀ last, more.IsKept last →
      Marked.chars (markedFragment params last fragment) = text.toList := by
  cases fragment with
  | text content =>
    cases ended
    exact ⟨.refl names, fun _ _ => Marked.chars_all .template _⟩
  | reference name =>
    obtain ⟨kept, param, phrase, given, made, rfl⟩ := writeReference_ok ended
    refine ⟨kept, fun last keeps => ?_⟩
    have written : referencePhrase params last name = phrase := by
      simp only [referencePhrase, given, phrase_kept keeps made]
    rw [markedFragment, written, chars_phrase]

/-- The marks are on exactly the characters that are written. The names found by the end serve for
every reference, since no name changes on the way. -/
theorem writeAll_marked {fragments : List Fragment} {output : String}
    (ended : writeAll params names fragments metadata lookups = ⟨.ok (more, output), later⟩) :
    names.IsKept more ∧ ∀ last, more.IsKept last →
      Marked.chars (markedAll params last fragments) = output.toList := by
  induction fragments generalizing names lookups output with
  | nil =>
    cases ended
    exact ⟨.refl more, fun _ _ => rfl⟩
  | cons fragment rest ih =>
    obtain ⟨⟨known, first⟩, between, began, ended⟩ := Asking.ok_of_bind ended
    obtain ⟨⟨found, others⟩, behind, followed, ended⟩ := Asking.ok_of_bind ended
    cases ended
    obtain ⟨keptFirst, markedFirst⟩ := writeFragment_marked began
    obtain ⟨keptRest, markedRest⟩ := ih followed
    refine ⟨keptFirst.trans keptRest, fun last keeps => ?_⟩
    rw [String.toList_append, ← markedFirst last (keptRest.trans keeps), ← markedRest last keeps,
      ← Marked.chars_append]
    rfl

/-! ## Scanning the output -/

/-- The characters of a template with its references erased. -/
def erased : List Fragment → List Char
  | [] => []
  | .text content :: rest => content.toList ++ erased rest
  | .reference _ :: rest => erased rest

/-- Every reference stands outside quotes when the template is scanned with its references erased. -/
def StandOutside (state : Quoting) : List Fragment → Prop
  | [] => True
  | .text content :: rest => StandOutside (state.after content.toList) rest
  | .reference _ :: rest => state = .outside ∧ StandOutside state rest

/-- The characters of the template among those scanned, with their states. -/
def scannedTemplate (scanned : List (Quoting × Marked)) : List (Quoting × Char) :=
  scanned.filterMap fun (state, c) =>
    if c.origin = .template then some (state, c.char) else none

theorem scannedTemplate_append (first second : List (Quoting × Marked)) :
    scannedTemplate (first ++ second) = scannedTemplate first ++ scannedTemplate second :=
  List.filterMap_append

theorem scannedTemplate_text (state : Quoting) (cs : List Char) :
    scannedTemplate (Marked.scan state (Marked.all .template cs)) = state.scan cs := by
  induction cs generalizing state with
  | nil => rfl
  | cons c rest ih => exact congrArg ((state, c) :: ·) (ih (state.step c))

/-- A value leaves the scan of the template as it was. -/
theorem scannedTemplate_isolated {state : Quoting} {marked : List Marked}
    (isolated : Marked.IsIsolated marked) : scannedTemplate (Marked.scan state marked) = [] := by
  refine List.filterMap_eq_nil_iff.mpr fun (entered, c) scanned => ?_
  simp [isolated.foreign c (Marked.mem_of_scan scanned)]

/-- Where references stand outside quotes, the characters of the template are scanned as if nothing
stood between them, and those of values are scanned between quotes. -/
theorem scan_markedAll {state : Quoting} {fragments : List Fragment}
    (standing : StandOutside state fragments) :
    scannedTemplate (Marked.scan state (markedAll params names fragments)) =
        state.scan (erased fragments) ∧
      ∀ entered c, (entered, c) ∈ Marked.scan state (markedAll params names fragments) →
        c.origin = .value → entered ≠ .outside := by
  induction fragments generalizing state with
  | nil => exact ⟨rfl, by simp [markedAll, Marked.scan]⟩
  | cons fragment rest ih =>
    rw [markedAll, List.flatMap_cons, Marked.scan_append, scannedTemplate_append, ← markedAll]
    cases fragment with
    | text content =>
      obtain ⟨same, quoted⟩ := ih standing
      rw [markedFragment, Marked.chars_all, scannedTemplate_text, same, erased, Quoting.scan_append]
      refine ⟨rfl, fun entered c scanned value => ?_⟩
      rcases List.mem_append.mp scanned with here | later
      · obtain ⟨_, _, rfl⟩ := List.mem_map.mp (Marked.mem_of_scan here)
        cases value
      · exact quoted entered c later value
    | reference name =>
      obtain ⟨rfl, standing⟩ := standing
      obtain ⟨same, quoted⟩ := ih standing
      have isolated := isolated_phrase (readable_reference params names name)
      rw [markedFragment, isolated.closed, scannedTemplate_isolated isolated, same, erased]
      refine ⟨rfl, fun entered c scanned value => ?_⟩
      rcases List.mem_append.mp scanned with here | later
      · exact isolated.between entered c here value
      · exact quoted entered c later value

/-- Substitution isolates what it inlines, over any store. The statement is an output without the
blanks around it. Where every live reference stands outside quotes, the template's own characters in
the output are scanned in the states they have with the references erased, and every character of a
string, a pattern or a column name is scanned between quotes, the doubled quotes apart. -/
theorem substitution_isolates_values {template : Template} {timeout : Option Duration}
    {earlier : List Lookup} {query : SubstitutedQuery}
    (substituted : (template.substitute params timeout metadata earlier).result = .ok query)
    (standing : StandOutside .outside (live params template)) :
    ∃ names output marked, (write params {} template metadata earlier).result = .ok (names, output) ∧
      query.text = Text.trim output ∧ marked = markedAll params names (live params template) ∧
      (Marked.scan .outside marked).map (fun (state, c) => (state, c.char)) =
        Quoting.outside.scan output.toList ∧
      scannedTemplate (Marked.scan .outside marked) =
        Quoting.outside.scan (erased (live params template)) ∧
      ∀ state c, (state, c) ∈ Marked.scan .outside marked → c.origin = .value →
        state ≠ .outside := by
  have ended := Asking.ended_of_result substituted
  obtain ⟨⟨names, output⟩, between, written, ended⟩ := Asking.ok_of_bind ended
  cases ended
  have marks := write_live {} template ▸ written
  have spelled := (writeAll_marked marks).2 names (.refl names)
  obtain ⟨same, quoted⟩ := scan_markedAll standing
  exact ⟨names, output, _, congrArg Asked.result written, rfl, rfl,
    spelled ▸ Marked.scan_chars .outside _, same, quoted⟩

/-- A template with quotes of its own, around and between its references. -/
def quotingTemplate : Template :=
  [.text "\"it's\" = ", .reference "a", .optional [.text " AND '\"' <> ", .reference "b"]]

def quotingParams : Params :=
  [ ("a", .scalar (.text "' OR \"1")),
    ("b", .fieldFilter ⟨.byId 7, .contains, [.text "'"], false⟩) ]

def quotingCatalog : Catalog where
  fields := [(7, "c\"d")]

def quotingQuery : SubstitutedQuery where
  text := "\"it's\" = ''' OR \"1' AND '\"' <> LOWER(\"c\"\"d\") LIKE '%''%'"

/-- Quotes in the template and in a value: each character of the value stands inside of quotes. -/
theorem quoting_template_isolates_values :
    (quotingTemplate.substitute quotingParams none quotingCatalog.metadata []).result =
      .ok quotingQuery ∧
    StandOutside .outside (live quotingParams quotingTemplate) ∧
    ∃ names, ∀ state c,
      (state, c) ∈ Marked.scan .outside (markedAll quotingParams names
        (live quotingParams quotingTemplate)) → c.origin = .value → state ≠ .outside := by
  have substituted : (quotingTemplate.substitute quotingParams none
      quotingCatalog.metadata []).result = .ok quotingQuery := rfl
  have standing : StandOutside .outside (live quotingParams quotingTemplate) :=
    ⟨rfl, rfl, trivial⟩
  obtain ⟨names, output, marked, -, -, rfl, -, -, quoted⟩ :=
    substitution_isolates_values substituted standing
  exact ⟨substituted, standing, names, quoted⟩

end Template

end ColumnQuery
