import ColumnQuery.Proofs.Comments
import ColumnQuery.Proofs.Template.Isolation

/-! Which text of a template is commented out once values are inlined. Where every reference stands
outside quotes, and no value begins or ends a comment at its place, each character of the template
lies in a comment of the output exactly when it does with a blank in the place of every value. So two
choices of values never differ in what they comment out. -/
namespace ColumnQuery
open Sql

/-! ## Values at their places -/

/-- Whether a literal is a number written with a sign. -/
def Sql.Literal.isNegative : Literal → Bool
  | .integer value => value.toInt < 0
  | .real value => value.isFinite && value.negative
  | _ => false

/-- Whether a literal neither begins nor ends a comment where the scanner stands: it is no negative
number behind a dash, and there is no line end of it in a comment. -/
def Sql.Literal.fits (literal : Literal) : Commenting → Bool
  | .behindDash => !literal.isNegative
  | .inComment => !literal.sql.toList.any isLineEnd
  | _ => true

theorem unsigned_opens {text : List Char} (unsigned : Decimal.IsUnsigned text) :
    ∃ first rest, text = first :: rest ∧ first ≠ '-' := by
  cases text with
  | nil => cases unsigned.first_digit
  | cons first rest =>
    refine ⟨first, rest, rfl, ?_⟩
    rintro rfl
    cases unsigned.first_digit

/-- Only a negative number begins with a dash. -/
theorem literal_opens {literal : Literal} (positive : literal.fits .behindDash = true) :
    ∃ first rest, literal.sql.toList = first :: rest ∧ first ≠ '-' := by
  rw [Literal.fits, Bool.not_eq_true'] at positive
  have string (text : String) :
      ∃ first rest, (stringText text).toList = first :: rest ∧ first ≠ '-' :=
    ⟨'\'', _, by rw [stringText, Text.quoted, String.toList_ofList], by decide⟩
  cases literal with
  | null => exact ⟨'N', _, rfl, by decide⟩
  | text value => exact string value
  | integer value =>
    have natural : value.toInt = (value.toInt.toNat : Int) := by
      simp only [Literal.isNegative, decide_eq_false_iff_not] at positive
      omega
    have written : (Literal.integer value).sql = toString value.toInt.toNat := by
      rw [Literal.sql, natural]
      rfl
    rw [written]
    exact unsigned_opens (Decimal.unsigned_nat _)
  | real value =>
    rw [Literal.sql, realText]
    split
    · next finite =>
      obtain ⟨n, point, magnitude, laid, written, -⟩ := Decimal.compact_text value
      have unsigned : value.negative = false := by
        simpa [Literal.isNegative, finite] using positive
      rw [written, if_neg (by simp [unsigned])]
      exact unsigned_opens (Decimal.unsigned_magnitude laid)
    · exact ⟨'N', _, rfl, by decide⟩
  | boolean value =>
    cases value with
    | true => exact ⟨'T', _, rfl, by decide⟩
    | false => exact ⟨'F', _, rfl, by decide⟩
  | uuid value => exact string value.text
  | temporal value => exact string value.text

namespace Commenting

/-- A comment goes on to the end of its line. -/
theorem after_comment {cs : List Char} (one : cs.any isLineEnd = false) :
    inComment.after cs = .inComment := by
  induction cs with
  | nil => rfl
  | cons c rest ih =>
    obtain ⟨here, later⟩ := Bool.or_eq_false_iff.mp one
    change (inComment.step c).after rest = .inComment
    rw [step, here]
    exact ih later

/-- A literal that fits leaves the scanner where a blank leaves it. -/
theorem after_fitting {state : Commenting} {literal : Literal}
    (unquoted : state ≠ .inString ∧ state ≠ .inName) (fits : literal.fits state = true) :
    state.after literal.sql.toList = state.step ' ' := by
  cases state with
  | outside => exact after_literal literal
  | behindDash =>
    obtain ⟨first, rest, written, other⟩ := literal_opens fits
    have entered := after_literal literal
    rw [written] at entered ⊢
    change (behindDash.step first).after rest = .outside
    rw [step, if_neg other]
    exact entered
  | inString => exact absurd rfl unquoted.1
  | inName => exact absurd rfl unquoted.2
  | inComment => exact after_comment (by simpa [Literal.fits] using fits)

end Commenting

/-! ## Templates -/

namespace Template
open Marked

variable {params : Params} {names : FieldNames}

/-- The value that is inlined for a parameter, when it is one value. -/
def scalar? (params : Params) (name : String) : Option Literal :=
  match params.find? name with
  | some (.scalar value) => some value
  | _ => none

/-- Whether every reference stands outside quotes when each is scanned as a blank. A reference in a
comment does, whatever quotes are in the comment. -/
def standUnquoted (state : Commenting) : List Fragment → Bool
  | [] => true
  | .text content :: rest => standUnquoted (state.after content.toList) rest
  | .reference _ :: rest =>
    state != .inString && state != .inName && standUnquoted (state.step ' ') rest

/-- Whether every value fits where it is inlined. -/
def valuesFit (params : Params) (state : Commenting) : List Fragment → Bool
  | [] => true
  | .text content :: rest => valuesFit params (state.after content.toList) rest
  | .reference name :: rest =>
    (scalar? params name).all (·.fits state) && valuesFit params (state.step ' ') rest

/-- Fragments with a blank in the place of each reference. -/
def blanked : List Fragment → List Marked
  | [] => []
  | .text content :: rest => all .template content.toList ++ blanked rest
  | .reference _ :: rest => ⟨' ', .sign⟩ :: blanked rest

/-- Every reference has one value to inline. -/
def HaveScalars (params : Params) (fragments : List Fragment) : Prop :=
  ∀ name, .reference name ∈ fragments → ∃ value, scalar? params name = some value

theorem find_of_scalar {name : String} {value : Literal} (given : scalar? params name = some value) :
    params.find? name = some (.scalar value) := by
  unfold scalar? at given
  split at given
  · next found =>
    cases given
    exact found
  · cases given

theorem markedAll_text (content : String) (rest : List Fragment) :
    markedAll params names (.text content :: rest) =
      all .template content.toList ++ markedAll params names rest :=
  List.flatMap_cons

theorem markedAll_scalar {name : String} {value : Literal} (given : scalar? params name = some value)
    (rest : List Fragment) : markedAll params names (.reference name :: rest) =
      value.marked ++ markedAll params names rest := by
  have written : referencePhrase params names name = [.literal value] := by
    rw [referencePhrase, find_of_scalar given]
    rfl
  rw [markedAll, List.flatMap_cons, markedFragment, written]
  change (value.marked ++ []) ++ _ = _
  rw [List.append_nil]
  rfl

/-- Behind a dash of the template, a dash follows in the output only where one follows in the
template itself. -/
theorem dash_follows {fragments : List Fragment} (scalars : HaveScalars params fragments)
    (fit : valuesFit params .behindDash fragments = true) :
    dashFirst false (markedAll params names fragments) = dashFirst false (blanked fragments) := by
  induction fragments with
  | nil => rfl
  | cons fragment rest ih =>
    cases fragment with
    | text content =>
      rw [markedAll_text, blanked, dashFirst_append, dashFirst_append]
      cases written : content.toList with
      | nil =>
        rw [valuesFit, written] at fit
        exact ih (fun name member => scalars name (.tail _ member)) fit
      | cons first more => rfl
    | reference name =>
      obtain ⟨value, given⟩ := scalars name (.head _)
      rw [valuesFit, given, Bool.and_eq_true] at fit
      obtain ⟨first, more, written, other⟩ := literal_opens fit.1
      rw [markedAll_scalar given, blanked, dashFirst_append]
      rw [← chars_literal] at written
      cases marks : value.marked with
      | nil => simp [marks, Marked.chars] at written
      | cons mark marked =>
        rw [marks] at written
        obtain ⟨rfl, -⟩ := List.cons.inj written
        exact beq_eq_false_iff_ne.mpr other

/-- The template is commented out as if there were a blank in the place of each value. -/
theorem comments_of_blanked {state : Commenting} {fragments : List Fragment}
    (scalars : HaveScalars params fragments) (unquoted : standUnquoted state fragments = true)
    (fit : valuesFit params state fragments = true) :
    templateComments (commented state false (markedAll params names fragments)) =
      templateComments (commented state false (blanked fragments)) := by
  induction fragments generalizing state with
  | nil => rfl
  | cons fragment rest ih =>
    have others : HaveScalars params rest := fun name member => scalars name (.tail _ member)
    cases fragment with
    | text content =>
      have same : commented state (dashFirst false (markedAll params names rest))
          (all .template content.toList) =
          commented state (dashFirst false (blanked rest)) (all .template content.toList) := by
        refine commented_alike fun dash => ?_
        rw [chars_all] at dash
        rw [valuesFit, dash] at fit
        exact dash_follows others fit
      rw [markedAll_text, blanked, commented_append, commented_append, templateComments_append,
        templateComments_append, same, chars_all, ih others unquoted fit]
    | reference name =>
      obtain ⟨value, given⟩ := scalars name (.head _)
      simp only [standUnquoted, Bool.and_eq_true, bne_iff_ne] at unquoted
      rw [valuesFit, given, Bool.and_eq_true] at fit
      have left := Commenting.after_fitting unquoted.1 fit.1
      rw [markedAll_scalar given, blanked, commented_append, templateComments_append,
        templateComments_foreign (isolated_literal value).foreign, chars_literal, left,
        ih others unquoted.2 fit.2]
      rfl

/-! ## Two choices of values -/

variable {template : Template}

/-- The output of a substitution that needs no column names, before the blanks around it are
dropped. -/
def scalarOutput (params : Params) (template : Template) : List Marked :=
  markedAll params {} (live params template)

/-- Scalars are written without a lookup. -/
theorem writeAll_scalars {fragments : List Fragment} (scalars : HaveScalars params fragments)
    (metadata : Metadata) (earlier : List Lookup) : ∃ output,
      writeAll params names fragments metadata earlier = ⟨.ok (names, output), earlier⟩ := by
  induction fragments with
  | nil => exact ⟨"", rfl⟩
  | cons fragment rest ih =>
    obtain ⟨others, following⟩ := ih fun name member => scalars name (.tail _ member)
    obtain ⟨first, began⟩ : ∃ first,
        writeFragment params names fragment metadata earlier = ⟨.ok (names, first), earlier⟩ := by
      cases fragment with
      | text content => exact ⟨content, rfl⟩
      | reference name =>
        obtain ⟨value, given⟩ := scalars name (.head _)
        exact ⟨_, writeReference_ready (find_of_scalar given) rfl⟩
    exact ⟨first ++ others, (Asking.bind_of_ok _ began).trans (Asking.bind_of_ok _ following)⟩

theorem live_haveScalars
    (given : ∀ name ∈ Template.references template, (scalar? params name).isSome = true) :
    HaveScalars params (live params template) :=
  fun name member => Option.isSome_iff_exists.mp (given name (reference_of_live template member))

/-- Scalars are inlined without a lookup and without a failure. -/
theorem scalars_are_substituted
    (given : ∀ name ∈ Template.references template, (scalar? params name).isSome = true)
    (timeout : Option Duration) (metadata : Metadata) (earlier : List Lookup) : ∃ query output,
      template.substitute params timeout metadata earlier = ⟨.ok query, earlier⟩ ∧
        query.text = Text.trim output ∧
        output.toList = Marked.chars (scalarOutput params template) := by
  obtain ⟨output, written⟩ : ∃ output, writeAll params {} (live params template) metadata earlier =
      ⟨.ok ({}, output), earlier⟩ := writeAll_scalars (live_haveScalars given) metadata earlier
  have spelled := (writeAll_marked written).2 {} (.refl {})
  rw [← write_live] at written
  refine ⟨{ text := Text.trim output, options := Options.withTimeout? {} timeout }, output, ?_, rfl,
    spelled.symm⟩
  rw [substitute]
  refine (Asking.bind_of_ok _ written).trans ?_
  rfl

theorem lacks_scalar {name : String} (given : (scalar? params name).isSome = true) :
    params.lacks name = false := by
  obtain ⟨value, given⟩ := Option.isSome_iff_exists.mp given
  rw [Params.lacks, find_of_scalar given]

/-- Two choices of scalars comment out the same text of a template. When every live reference stands
outside quotes, and no value is a negative number right behind a dash or holds a line end within a
comment, both substitutions succeed over any store, and each character of the template lies in a
comment of the one output exactly when it lies in a comment of the other. -/
theorem scalars_comment_alike {first second : Params}
    (firstGiven : ∀ name ∈ Template.references template, (scalar? first name).isSome = true)
    (secondGiven : ∀ name ∈ Template.references template, (scalar? second name).isSome = true)
    (unquoted : standUnquoted .outside (live first template) = true)
    (firstFit : valuesFit first .outside (live first template) = true)
    (secondFit : valuesFit second .outside (live second template) = true) :
    (∀ params ∈ [first, second], ∀ timeout metadata earlier, ∃ query output,
      template.substitute params timeout metadata earlier = ⟨.ok query, earlier⟩ ∧
        query.text = Text.trim output ∧
        output.toList = Marked.chars (scalarOutput params template)) ∧
      templateComments (commented .outside false (scalarOutput first template)) =
        templateComments (commented .outside false (scalarOutput second template)) := by
  have alike : live first template = live second template := by
    refine live_alike template fun name member => ?_
    rw [lacks_scalar (firstGiven name member), lacks_scalar (secondGiven name member)]
  constructor
  · intro params member
    rcases List.mem_pair.mp member with rfl | rfl
    · exact scalars_are_substituted firstGiven
    · exact scalars_are_substituted secondGiven
  · rw [scalarOutput, scalarOutput,
      comments_of_blanked (live_haveScalars firstGiven) unquoted firstFit,
      comments_of_blanked (live_haveScalars secondGiven) (alike ▸ unquoted) secondFit, alike]

/-- A template with numbers between dashes, and with a string in a comment that has a quote of its
own. -/
def dashedTemplate : Template :=
  [ .text "SELECT 5 - ", .reference "n", .text "-1 -- it's ",
    .optional [.reference "s", .text "\nFROM t WHERE x > 5-"], .reference "m" ]

def dashedParams : Params :=
  [("n", .scalar (.integer (-1))), ("s", .scalar (.text "'--")), ("m", .scalar (.integer 7))]

def otherDashedParams : Params :=
  [("n", .scalar .null), ("s", .scalar (.boolean true)), ("m", .scalar (.text "\n-- "))]

/-- Dashes in the template, in a number and in strings: the comment of the template is the same for other
values. -/
theorem dashed_template_comments_alike :
    String.ofList (Marked.chars (scalarOutput dashedParams dashedTemplate)) =
        "SELECT 5 - -1-1 -- it's '''--'\nFROM t WHERE x > 5-7" ∧
      templateComments (commented .outside false (scalarOutput dashedParams dashedTemplate)) =
        templateComments
          (commented .outside false (scalarOutput otherDashedParams dashedTemplate)) := by
  have firstFit : valuesFit dashedParams .outside (live dashedParams dashedTemplate) = true := by
    decide
  have secondFit :
      valuesFit otherDashedParams .outside (live otherDashedParams dashedTemplate) = true := by
    decide
  have alike := scalars_comment_alike (by decide) (by decide) (by decide) firstFit secondFit
  exact ⟨by decide, alike.2⟩

/-! A line end in a value ends the comment that the value stands in. -/

example :
    let remark : Template := [.text "-- ", .reference "s", .text "c"]
    let broken : Params := [("s", .scalar (.text "a\nb"))]
    let whole : Params := [("s", .scalar (.text "ab"))]
    templateComments (commented .outside false (scalarOutput broken remark)) ≠
      templateComments (commented .outside false (scalarOutput whole remark)) := by
  decide

/-- A dash right before a reference. -/
def subtraction : Template :=
  [.text "SELECT 5-", .reference "n", .text " FROM t"]

/-- With the sign of a negative number the dash begins a comment, which takes in the rest of the
template. With another number in the place of that one nothing is commented out. -/
theorem sign_comments_out_template :
    let negative : Params := [("n", .scalar (.integer (-1)))]
    let positive : Params := [("n", .scalar (.integer 1))]
    standUnquoted .outside (live negative subtraction) = true ∧
      (subtraction.substitute negative none ({} : Catalog).metadata []).result =
        .ok { text := "SELECT 5--1 FROM t" } ∧
      (subtraction.substitute positive none ({} : Catalog).metadata []).result =
        .ok { text := "SELECT 5-1 FROM t" } ∧
      templateComments (commented .outside false (scalarOutput negative subtraction)) =
        "SELECT 5".toList.map (false, ·) ++ "- FROM t".toList.map (true, ·) ∧
      templateComments (commented .outside false (scalarOutput positive subtraction)) =
        "SELECT 5- FROM t".toList.map (false, ·) :=
  ⟨by decide, rfl, rfl, by decide, by decide⟩

end Template

end ColumnQuery
