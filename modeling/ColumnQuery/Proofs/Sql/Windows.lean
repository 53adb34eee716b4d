import ColumnQuery.Proofs.Decimal.Spelling
import ColumnQuery.Proofs.Sql.Pieces
import Mathlib.Data.List.Basic

/-! The rows that pages ask for. Three limits meet here: a product of words that stops at the largest
word, a page number that stops at zero, and a text in which no number is above the largest signed word.
Counted over the naturals, pages lie side by side as long as the last row of a page is in reach of a
signed word. A page is what its clause says, so everything is read from the text of the clause. -/
namespace ColumnQuery.Sql

/-- A stretch of rows: how many rows stand before it, and how many there are in it. -/
structure Window where
  start : Nat
  size : Nat
deriving DecidableEq

namespace Window

/-- A row, counted from zero, is in the window. -/
def Holds (window : Window) (row : Nat) : Prop :=
  window.start ≤ row ∧ row < window.start + window.size

/-- How a window is asked for. A window with nothing before it is asked for by its size alone. -/
def clause (window : Window) : String :=
  "LIMIT " ++ (if window.start = 0 then "" else toString window.start ++ ", ") ++
    toString window.size

theorem clause_first (size : Nat) : clause ⟨0, size⟩ = "LIMIT " ++ toString size :=
  rfl

theorem clause_later {start : Nat} (positive : start ≠ 0) (size : Nat) :
    (clause ⟨start, size⟩).toList =
      "LIMIT ".toList ++ ((toString start).toList ++ ',' :: ' ' :: (toString size).toList) := by
  have comma : ", ".toList = [',', ' '] := rfl
  simp [clause, positive, comma]

theorem comma_not_in_digits (n : Nat) : ',' ∉ (toString n).toList := by
  intro member
  have digit := Decimal.nat_digits n ',' member
  exact absurd digit (by decide)

/-- A clause with one number is no clause with two. -/
theorem clause_first_ne_later {start : Nat} (positive : start ≠ 0) (size other : Nat) :
    clause ⟨0, other⟩ ≠ clause ⟨start, size⟩ := by
  intro same
  have texts := congrArg String.toList same
  rw [clause_later positive, clause_first, String.toList_append] at texts
  have digits := List.append_cancel_left texts
  apply comma_not_in_digits other
  rw [digits]
  simp

/-- Nothing but the window decides how it is asked for, so the text tells which window it is. -/
theorem clause_injective : Function.Injective clause := by
  rintro ⟨start, size⟩ ⟨next, other⟩ same
  by_cases first : start = 0
  · subst first
    by_cases second : next = 0
    · subst second
      have texts := congrArg String.toList same
      rw [clause_first, clause_first, String.toList_append, String.toList_append] at texts
      rw [Decimal.nat_digits_inj (List.append_cancel_left texts)]
    · exact absurd same (clause_first_ne_later second other size)
  · by_cases second : next = 0
    · subst second
      exact absurd same.symm (clause_first_ne_later first size other)
    · have texts := congrArg String.toList same
      rw [clause_later first, clause_later second] at texts
      have parts := List.append_cancel_left texts
      have split := (List.append_cons_inj_of_notMem (comma_not_in_digits _) (by
        intro member
        rcases List.mem_cons.mp member with blank | digit
        · exact absurd blank (by decide)
        · exact comma_not_in_digits _ digit)).mp parts
      obtain ⟨starts, -, sizes⟩ := split
      rw [Decimal.nat_digits_inj starts, Decimal.nat_digits_inj (List.cons.inj sizes).2]

end Window

namespace Page

/-- The text of the page is how this window is asked for. -/
def AsksFor (page : Page) (window : Window) : Prop :=
  Phrase.text page.phrase = window.clause

theorem text_phrase (limit : UInt64) (offset : Option UInt64) :
    Phrase.text (phrase ⟨some limit, offset⟩) =
      "LIMIT " ++ Rendered.skipped offset ++ Rendered.countText limit := by
  have opening : Phrase.text [.keyword .limit, .space] = "LIMIT " := rfl
  obtain ⟨rows, shape, written⟩ := phrase_limited limit offset
  rw [shape, Phrase.text_append, opening, written, String.append_assoc]

/-- The rows before the window are written exactly when there are some. -/
theorem skipped_eq (offset : Option UInt64) : Rendered.skipped offset =
    if min (offset.getD 0).toNat (2 ^ 63 - 1) = 0 then ""
    else toString (min (offset.getD 0).toNat (2 ^ 63 - 1)) ++ ", " := by
  cases offset with
  | none => rfl
  | some offset =>
    have positive : 0 < offset ↔ ¬ min offset.toNat (2 ^ 63 - 1) = 0 := by
      rw [UInt64.lt_iff_toNat_lt, UInt64.toNat_zero]
      omega
    simp only [Rendered.skipped, Rendered.countText, Option.getD_some, positive]
    split <;> simp_all

/-- With a limit there is one window that a page asks for. Its numbers are those of the page, as far as a
signed word goes. -/
theorem asksFor_iff {limit : UInt64} {offset : Option UInt64} {window : Window} :
    AsksFor ⟨some limit, offset⟩ window ↔
      window = ⟨min (offset.getD 0).toNat (2 ^ 63 - 1), min limit.toNat (2 ^ 63 - 1)⟩ := by
  rw [AsksFor, text_phrase, skipped_eq]
  exact ⟨fun same => Window.clause_injective same.symm, fun same => same ▸ rfl⟩

theorem rowsBefore_toNat (limit number : UInt64) :
    (rowsBefore limit number).toNat = min (limit.toNat * (number.toNat - 1)) (2 ^ 64 - 1) := by
  rw [rowsBefore, UInt64.toNat_ofNat', Nat.mod_eq_of_lt]
  · rfl
  · have size : UInt64.size = 2 ^ 64 := rfl
    omega

section Numbered

variable {limit number later : UInt64} {window next : Window}

/-- The largest word is above the largest signed word, so a product that stops at it is cut off in the
text anyway. -/
theorem numbered_asksFor_iff : AsksFor (ofNumber (some limit) (some number)) window ↔
    window = ⟨min (limit.toNat * (number.toNat - 1)) (2 ^ 63 - 1), min limit.toNat (2 ^ 63 - 1)⟩ := by
  have cut : min (min (limit.toNat * (number.toNat - 1)) (2 ^ 64 - 1)) (2 ^ 63 - 1) =
      min (limit.toNat * (number.toNat - 1)) (2 ^ 63 - 1) := by omega
  rw [ofNumber, asksFor_iff, Option.getD_some, rowsBefore_toNat, cut]

/-- A page further on never begins earlier, even where numbers are cut off. -/
theorem start_mono (order : number ≤ later)
    (first : AsksFor (ofNumber (some limit) (some number)) window)
    (second : AsksFor (ofNumber (some limit) (some later)) next) : window.start ≤ next.start := by
  rw [numbered_asksFor_iff] at first second
  subst first second
  have fewer : number.toNat - 1 ≤ later.toNat - 1 :=
    Nat.sub_le_sub_right (UInt64.le_iff_toNat_le.mp order) 1
  have product := Nat.mul_le_mul_left limit.toNat fewer
  apply le_min
  · exact (min_le_left _ _).trans product
  · exact min_le_right _ _

/-- The window of a page that is counted from one and whose last row is in reach of a signed word. -/
structure Reaches (limit number : UInt64) (window : Window) : Prop where
  counted : 1 ≤ number
  within : limit.toNat * number.toNat ≤ 2 ^ 63 - 1
  asked : AsksFor (ofNumber (some limit) (some number)) window

/-- In reach nothing is cut off: a page begins after the pages before it, and has its full size. -/
theorem Reaches.window_eq (reaches : Reaches limit number window) :
    window.start + window.size = limit.toNat * number.toNat ∧ window.size = limit.toNat := by
  have counted : 1 ≤ number.toNat := UInt64.le_iff_toNat_le.mp reaches.counted
  have within := reaches.within
  have window_eq := numbered_asksFor_iff.mp reaches.asked
  have whole : limit.toNat * number.toNat = limit.toNat * (number.toNat - 1) + limit.toNat := by
    rw [← Nat.mul_succ, Nat.succ_eq_add_one, Nat.sub_add_cancel counted]
  subst window_eq
  constructor
  · simp only
    omega
  · simp only
    omega

/-- In reach a page begins after the end of every page before it. -/
theorem Reaches.starts_after (first : Reaches limit number window) (second : Reaches limit later next)
    (order : number.toNat < later.toNat) : window.start + window.size ≤ next.start := by
  obtain ⟨ends, size⟩ := first.window_eq
  obtain ⟨nextEnds, nextSize⟩ := second.window_eq
  have more : limit.toNat * number.toNat + limit.toNat ≤ limit.toNat * later.toNat := by
    rw [← Nat.mul_succ]
    exact Nat.mul_le_mul_left limit.toNat order
  omega

/-- In reach a page ends where the next one begins. -/
theorem Reaches.adjacent (first : Reaches limit number window) (second : Reaches limit later next)
    (follows : later.toNat = number.toNat + 1) : window.start + window.size = next.start := by
  obtain ⟨ends, size⟩ := first.window_eq
  obtain ⟨nextEnds, nextSize⟩ := second.window_eq
  rw [follows, Nat.mul_succ] at nextEnds
  omega

/-- In reach no row is on two pages. -/
theorem Reaches.disjoint (first : Reaches limit number window) (second : Reaches limit later next)
    (different : number ≠ later) {row : Nat} (held : window.Holds row) : ¬ next.Holds row := by
  have apart : number.toNat ≠ later.toNat := fun same => different (UInt64.toNat_inj.mp same)
  unfold Window.Holds at held ⊢
  rcases Nat.lt_or_gt_of_ne apart with before | after
  · have order := first.starts_after second before
    omega
  · have order := second.starts_after first after
    omega

end Numbered

/-- What pages are, whatever their limits and numbers.
- A page with a limit and a number skips the product of the limit with the number of pages before it, up
  to the largest word; without one of them it skips nothing.
- It is written by two numbers, each up to the largest signed word; no rows to skip are left out, and
  without a limit nothing is written.
- A page further on never begins earlier.
- Pages that are counted from one lie side by side from the first row on, as far as their last rows are in
  reach of a signed word. -/
structure TileRows : Prop where
  skips : ∀ limit number : UInt64, ∃ offset : UInt64,
    ofNumber (some limit) (some number) = ⟨some limit, some offset⟩ ∧
      offset.toNat = if number = 0 then 0 else min (limit.toNat * (number.toNat - 1)) (2 ^ 64 - 1)
  skipsNothing : ∀ limit number, limit = none ∨ number = none → ofNumber limit number = ⟨limit, none⟩
  unwritten : ∀ limit offset, phrase ⟨limit, offset⟩ = [] ↔ limit = none
  written : ∀ limit offset window, AsksFor ⟨some limit, offset⟩ window ↔
    window = ⟨min (offset.getD 0).toNat (2 ^ 63 - 1), min limit.toNat (2 ^ 63 - 1)⟩
  withoutOffset : ∀ limit offset, Phrase.text (phrase ⟨some limit, offset⟩) =
    "LIMIT " ++ toString (min limit.toNat (2 ^ 63 - 1)) ↔ offset = none ∨ offset = some 0
  ordered : ∀ limit number later window next, number ≤ later →
    AsksFor (ofNumber (some limit) (some number)) window →
    AsksFor (ofNumber (some limit) (some later)) next → window.start ≤ next.start
  first : ∀ limit window, Reaches limit 1 window → window.start = 0
  disjoint : ∀ limit number later window next, Reaches limit number window →
    Reaches limit later next → number ≠ later → ∀ row, window.Holds row → ¬ next.Holds row
  adjacent : ∀ limit number later window next, Reaches limit number window →
    Reaches limit later next → later.toNat = number.toNat + 1 →
    window.start + window.size = next.start

/-- Without rows to skip only the limit is written. -/
theorem without_offset_iff {limit : UInt64} {offset : Option UInt64} :
    Phrase.text (phrase ⟨some limit, offset⟩) = "LIMIT " ++ toString (min limit.toNat (2 ^ 63 - 1)) ↔
      offset = none ∨ offset = some 0 := by
  let bare : Window := ⟨0, min limit.toNat (2 ^ 63 - 1)⟩
  have written : "LIMIT " ++ toString (min limit.toNat (2 ^ 63 - 1)) = bare.clause :=
    (Window.clause_first _).symm
  rw [written, ← AsksFor, asksFor_iff, Window.mk.injEq]
  cases offset with
  | none => simp
  | some offset =>
    rw [Option.getD_some, Option.some.injEq, ← UInt64.toNat_inj, UInt64.toNat_zero]
    have some_offset : some offset ≠ none := Option.some_ne_none offset
    simp only [some_offset, false_or, and_true]
    omega

/-- Pages are written as they are numbered and tile the rows, as far as signed words reach. -/
theorem pages_tile_rows : TileRows where
  skips limit number := by
    refine ⟨_, rfl, ?_⟩
    rw [rowsBefore_toNat]
    by_cases zero : number = 0
    · simp [zero]
    · rw [if_neg zero]
  skipsNothing := by
    rintro limit number (rfl | rfl)
    · rfl
    · cases limit <;> rfl
  unwritten limit offset := by
    cases limit <;> simp [phrase]
  written _ _ _ := asksFor_iff
  withoutOffset _ _ := without_offset_iff
  ordered _ _ _ _ _ := start_mono
  first limit window reaches := by
    obtain ⟨ends, size⟩ := reaches.window_eq
    rw [UInt64.toNat_one] at ends
    omega
  disjoint _ _ _ _ _ first second different _ := first.disjoint second different
  adjacent _ _ _ _ _ first second := first.adjacent second

/-- The last two pages of this size that are in reach. -/
theorem last_pages_tile :
    let limit : UInt64 := 1317624576693539401
    let sixth : Window := ⟨6588122883467697005, 1317624576693539401⟩
    let last : Window := ⟨7905747460161236406, 1317624576693539401⟩
    Reaches limit 6 sixth ∧ Reaches limit 7 last ∧ (∀ row, sixth.Holds row → ¬ last.Holds row) ∧
      sixth.start + sixth.size = last.start ∧ last.start + last.size = 2 ^ 63 - 1 := by
  intro limit sixth last
  have first : Reaches limit 6 sixth := ⟨by decide, by decide, numbered_asksFor_iff.mpr (by decide)⟩
  have second : Reaches limit 7 last := ⟨by decide, by decide, numbered_asksFor_iff.mpr (by decide)⟩
  have disjoint := pages_tile_rows.disjoint limit 6 7 sixth last first second (by decide)
  have adjacent := pages_tile_rows.adjacent limit 6 7 sixth last first second rfl
  exact ⟨first, second, disjoint, adjacent, by decide⟩

/-- A page with the number zero is the first page once more: the numbers are two, both are in reach, and
both pages ask for the same window, which has rows in it. -/
theorem page_zero_repeats_first :
    let window : Window := ⟨0, 10⟩
    AsksFor (ofNumber (some 10) (some 0)) window ∧ AsksFor (ofNumber (some 10) (some 1)) window ∧
      (0 : UInt64) ≠ 1 ∧ 10 * (0 : UInt64).toNat ≤ 2 ^ 63 - 1 ∧ 10 * (1 : UInt64).toNat ≤ 2 ^ 63 - 1 ∧
      window.Holds 0 := by
  intro window
  exact ⟨numbered_asksFor_iff.mpr rfl, numbered_asksFor_iff.mpr rfl, by decide, by decide, by decide,
    by decide, by decide⟩

end Page

end ColumnQuery.Sql
