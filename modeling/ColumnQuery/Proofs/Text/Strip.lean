import ColumnQuery.Text.Basic
import Mathlib.Data.List.DropRight

/-! Texts without the characters of a class around them. What is stripped begins and ends outside the
class, and only characters of the class are lost. -/
namespace ColumnQuery.Text

variable {p : Char → Bool}

/-- A text that does not begin and does not end with a character of a class. -/
def IsBare (p : Char → Bool) (cs : List Char) : Prop :=
  (∀ c ∈ cs.head?, p c = false) ∧ ∀ c ∈ cs.getLast?, p c = false

theorem isBare_iff {cs : List Char} : IsBare p cs ↔
    cs.head?.all (fun c => !p c) = true ∧ cs.getLast?.all (fun c => !p c) = true := by
  simp [IsBare, Option.all_eq_true]

instance (p : Char → Bool) (cs : List Char) : Decidable (IsBare p cs) :=
  decidable_of_iff _ isBare_iff.symm

/-- No visible character of ASCII is a blank. -/
theorem visible_is_not_blank {c : Char} (low : 0x20 < c.toNat) (high : c.toNat < 0x7f) :
    isBlank c = false := by
  simp only [isBlank, blank, CodePoints.contains, List.any_cons, List.any_nil, Bool.or_false,
    Bool.or_eq_false_iff, Bool.and_eq_false_iff, decide_eq_false_iff_not]
  omega

theorem isBare_of_all {cs : List Char} (other : ∀ c ∈ cs, p c = false) : IsBare p cs :=
  ⟨fun c first => other c (List.mem_of_mem_head? first),
    fun c last => other c (List.mem_of_getLast? last)⟩

theorem dropWhile_bare {cs : List Char} (first : ∀ c ∈ cs.head?, p c = false) :
    cs.dropWhile p = cs := by
  cases cs with
  | nil => rfl
  | cons c rest => exact List.dropWhile_cons_of_neg (by simp [first c rfl])

theorem dropTrailing_bare {cs : List Char} (last : ∀ c ∈ cs.getLast?, p c = false) :
    dropTrailing p cs = cs := by
  have kept : cs.reverse.dropWhile p = cs.reverse :=
    dropWhile_bare (by simpa only [List.head?_reverse] using last)
  rw [dropTrailing, kept, List.reverse_reverse]

theorem dropTrailing_append {cs after : List Char} (inside : ∀ c ∈ after, p c = true) :
    dropTrailing p (cs ++ after) = dropTrailing p cs := by
  have passed : ∀ c ∈ after.reverse, p c = true := fun c member =>
    inside c (List.mem_reverse.mp member)
  rw [dropTrailing, List.reverse_append, List.dropWhile_append_of_pos passed, dropTrailing]

/-- Characters of the class around a bare text are lost, and nothing else is. -/
theorem strip_surrounded {before cs after : List Char} (inBefore : ∀ c ∈ before, p c = true)
    (bare : IsBare p cs) (inAfter : ∀ c ∈ after, p c = true) :
    strip p (before ++ cs ++ after) = cs := by
  rw [strip, List.append_assoc, List.dropWhile_append_of_pos inBefore]
  cases cs with
  | nil =>
    rw [List.nil_append, List.dropWhile_eq_nil_iff.mpr inAfter]
    rfl
  | cons c rest =>
    rw [List.cons_append, List.dropWhile_cons_of_neg (by simp [bare.1 c rfl]), ← List.cons_append,
      dropTrailing_append inAfter, dropTrailing_bare bare.2]

/-- A bare text loses nothing. -/
theorem strip_bare {cs : List Char} (bare : IsBare p cs) : strip p cs = cs := by
  have nothing : ∀ c ∈ ([] : List Char), p c = true := by simp
  simpa using strip_surrounded nothing bare nothing

/-- A text is what is left of it with characters of the class around it. -/
theorem strip_splits (p : Char → Bool) (cs : List Char) : ∃ before after,
    cs = before ++ strip p cs ++ after ∧ (∀ c ∈ before, p c = true) ∧ ∀ c ∈ after, p c = true := by
  refine ⟨cs.takeWhile p, (cs.dropWhile p).rtakeWhile p, ?_, fun c => List.mem_takeWhile_imp,
    fun c => List.mem_rtakeWhile_imp⟩
  have ending : strip p cs ++ (cs.dropWhile p).rtakeWhile p = cs.dropWhile p :=
    List.rdropWhile_append_rtakeWhile ..
  rw [List.append_assoc, ending, List.takeWhile_append_dropWhile]

theorem head_of_dropWhile (cs : List Char) {c : Char} (first : c ∈ (cs.dropWhile p).head?) :
    p c = false := by
  have known := List.head?_dropWhile_not p cs
  rw [Option.mem_def.mp first] at known
  exact known

/-- A stretch of characters of a class ends where a character outside the class follows. -/
theorem stretch_ends {more rest : List Char} (inside : ∀ c ∈ more, p c = true)
    (outside : ∀ c, rest.head? = some c → p c = false) :
    (more ++ rest).takeWhile p = more ∧ (more ++ rest).dropWhile p = rest := by
  rw [List.takeWhile_append_of_pos inside, List.dropWhile_append_of_pos inside]
  cases rest with
  | nil => simp
  | cons c rest => simp [outside c rfl]

/-- What is left is bare. -/
theorem isBare_strip (p : Char → Bool) (cs : List Char) : IsBare p (strip p cs) := by
  constructor
  · intro c first
    obtain ⟨after, whole⟩ : strip p cs <+: cs.dropWhile p := List.rdropWhile_prefix ..
    refine head_of_dropWhile cs ?_
    rw [← whole, List.head?_append, Option.mem_def.mp first]
    rfl
  · intro c last
    refine head_of_dropWhile (cs.dropWhile p).reverse ?_
    rwa [strip, dropTrailing, List.getLast?_reverse] at last

/-! ## The ends of a text -/

/-- A text begins, and not with a character of the class. -/
def Opens (p : Char → Bool) (cs : List Char) : Prop :=
  ∃ c ∈ cs.head?, p c = false

/-- A text ends, and not with a character of the class. -/
def Closes (p : Char → Bool) (cs : List Char) : Prop :=
  ∃ c ∈ cs.getLast?, p c = false

theorem opens_append {first : List Char} (opens : Opens p first) (rest : List Char) :
    Opens p (first ++ rest) := by
  obtain ⟨c, begins, other⟩ := opens
  exact ⟨c, List.mem_head?_append_of_mem_head? begins, other⟩

theorem closes_append (before : List Char) {last : List Char} (closes : Closes p last) :
    Closes p (before ++ last) := by
  obtain ⟨c, ends, other⟩ := closes
  exact ⟨c, List.mem_getLast?_append_of_mem_getLast? ends, other⟩

theorem isBare_of_ends {cs : List Char} (opens : Opens p cs) (closes : Closes p cs) :
    IsBare p cs := by
  obtain ⟨first, begins, openOther⟩ := opens
  obtain ⟨last, ends, closeOther⟩ := closes
  constructor
  · intro c member
    rwa [Option.mem_unique member begins]
  · intro c member
    rwa [Option.mem_unique member ends]

end ColumnQuery.Text
