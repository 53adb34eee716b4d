import ColumnQuery.Proofs.Decimal.Spelling
import ColumnQuery.Proofs.Text.Strip
import ColumnQuery.Query.Aggregation
import Mathlib.Data.List.Nodup

/-! What names become. Any text becomes a plain name, a plain name stays as it is, and a list of names
becomes one without repetitions, which stays as it is when it had none. -/
namespace ColumnQuery

namespace Alias
open Text

/-- A name that stands in a statement as it is: characters of plain names, with no underscore at either
end. -/
structure IsPlain (name : String) : Prop where
  named : name.toList ≠ []
  spelled : ∀ c ∈ name.toList, isNameChar c = true
  bare : IsBare (· == '_') name.toList

theorem isPlain_iff {name : String} : IsPlain name ↔ name.toList ≠ [] ∧
    name.toList.all isNameChar = true ∧ IsBare (· == '_') name.toList := by
  rw [List.all_eq_true]
  exact ⟨fun plain => ⟨plain.1, plain.2, plain.3⟩, fun ⟨named, spelled, bare⟩ => ⟨named, spelled, bare⟩⟩

instance (name : String) : Decidable (IsPlain name) :=
  decidable_of_iff _ isPlain_iff.symm

/-! ## Plain names from texts -/

theorem collapse_spelled (inRun : Bool) (cs : List Char) :
    ∀ c ∈ collapse inRun cs, isNameChar c = true := by
  induction cs generalizing inRun with
  | nil => simp [collapse]
  | cons first rest ih =>
    rw [collapse]
    by_cases spelled : isNameChar first = true
    · rw [if_pos spelled]
      exact List.forall_mem_cons.mpr ⟨spelled, ih false⟩
    · rw [if_neg spelled]
      cases inRun with
      | true => exact ih true
      | false => exact List.forall_mem_cons.mpr ⟨rfl, ih true⟩

theorem collapse_of_spelled {cs : List Char} (spelled : ∀ c ∈ cs, isNameChar c = true) :
    collapse false cs = cs := by
  induction cs with
  | nil => rfl
  | cons first rest ih =>
    obtain ⟨head, tail⟩ := List.forall_mem_cons.mp spelled
    rw [collapse, if_pos head, ih tail]

theorem mem_of_mem_strip {p : Char → Bool} {cs : List Char} {c : Char} (member : c ∈ strip p cs) :
    c ∈ cs := by
  obtain ⟨before, after, whole, -, -⟩ := strip_splits p cs
  rw [whole]
  exact List.mem_append_left _ (List.mem_append_right _ member)

theorem name_char_range {c : Char} (spelled : isNameChar c = true) :
    0x30 ≤ c.toNat ∧ c.toNat ≤ 0x7a := by
  have code : c.val.toNat = c.toNat := rfl
  have classes : isNameChar c = (decide (0x41 ≤ c.val ∧ c.val ≤ 0x5a) ||
    0x61 ≤ c.val && c.val ≤ 0x7a || 0x30 ≤ c.val && c.val ≤ 0x39 || c == '_') := rfl
  simp only [classes, Bool.or_eq_true, Bool.and_eq_true, decide_eq_true_eq, beq_iff_eq,
    UInt32.le_iff_toNat_le, code] at spelled
  rcases spelled with ((upper | lower) | digit) | rfl
  · exact ⟨le_trans (by decide) upper.1, le_trans upper.2 (by decide)⟩
  · exact ⟨le_trans (by decide) lower.1, le_trans lower.2 (by decide)⟩
  · exact ⟨digit.1, le_trans digit.2 (by decide)⟩
  · decide

theorem name_char_is_not_blank {c : Char} (spelled : isNameChar c = true) : isBlank c = false := by
  obtain ⟨low, high⟩ := name_char_range spelled
  exact visible_is_not_blank (by omega) (by omega)

/-- Whatever a text is, the name made from it is plain, if the word to fall back on becomes one. -/
theorem sanitize_plain (name : String) {fallback : String}
    (falls : IsPlain (String.ofList (collapse false fallback.toList))) :
    IsPlain (sanitize name fallback) := by
  unfold sanitize
  by_cases empty : plain name = []
  · rw [empty]
    exact falls
  · have made : ∀ c ∈ plain name, isNameChar c = true := by
      intro c member
      exact collapse_spelled false _ c (mem_of_mem_strip member)
    have bare : IsBare (· == '_') (plain name) := isBare_strip ..
    split
    · next none => exact absurd none empty
    · refine ⟨?_, ?_, ?_⟩
      · rwa [String.toList_ofList]
      · rwa [String.toList_ofList]
      · rwa [String.toList_ofList]

/-- A plain name is left as it is. -/
theorem sanitize_of_plain {name : String} (already : IsPlain name) (fallback : String) :
    sanitize name fallback = name := by
  have unblank : strip isBlank name.toList = name.toList :=
    strip_bare (isBare_of_all fun c member => name_char_is_not_blank (already.spelled c member))
  have same : plain name = name.toList := by
    rw [plain, unblank, collapse_of_spelled already.spelled, strip_bare already.bare]
  unfold sanitize
  split
  · next none => exact absurd (same.symm.trans none) already.named
  · rw [same, String.ofList_toList]

/-! ## Distinct names -/

/-- Different numbers make different names. -/
theorem numbered_injective (name : String) : Function.Injective (numbered name) := by
  intro first second same
  rw [numbered, numbered, String.append_right_inj] at same
  exact Decimal.nat_digits_inj (congrArg String.toList same)

/-- A number after a plain name leaves it plain. -/
theorem numbered_plain {name : String} (plain : IsPlain name) (n : Nat) :
    IsPlain (numbered name n) := by
  have whole : (numbered name n).toList = name.toList ++ '_' :: (toString n).toList := by
    simp [numbered]
  have digits : ∀ c ∈ (toString n).toList, c.isDigit = true := Decimal.nat_digits n
  have some_digit : (toString n).toList ≠ [] := Decimal.nat_digits_nonempty n
  have digit_spelled {c : Char} (digit : c.isDigit = true) : isNameChar c = true := by
    simp [isNameChar, Char.isAlphanum, digit]
  have digit_other {c : Char} (digit : c.isDigit = true) : (c == '_') = false := by
    by_contra same
    obtain rfl : c = '_' := by simpa using same
    cases digit
  constructor
  · simp [whole]
  · rw [whole]
    intro c member
    rcases List.mem_append.mp member with before | number
    · exact plain.spelled c before
    · rcases List.mem_cons.mp number with rfl | digit
      · rfl
      · exact digit_spelled (digits c digit)
  · constructor
    · intro c first
      rw [whole, List.head?_append_of_ne_nil _ plain.named] at first
      exact plain.bare.1 c first
    · intro c last
      rw [whole, ← List.singleton_append, ← List.append_assoc,
        List.getLast?_append_of_ne_nil _ some_digit] at last
      exact digit_other (digits c (List.mem_of_getLast? last))

/-- The name that is found is taken only when all numbered names before it are. -/
theorem firstFree_taken {taken : List String} {name : String} {count n : Nat}
    (member : firstFree taken name count n ∈ taken) :
    (List.range' n (count + 1)).map (numbered name) ⊆ taken := by
  induction count generalizing n with
  | zero => simpa [firstFree] using member
  | succ count ih =>
    rw [firstFree] at member
    by_cases known : numbered name n ∈ taken
    · rw [if_pos known] at member
      rw [List.range'_succ, List.map_cons]
      exact List.cons_subset.mpr ⟨known, ih member⟩
    · rw [if_neg known] at member
      exact absurd member known

/-- Of one more numbered name than there are names, one is new. -/
theorem firstFree_new (taken : List String) (name : String) (n : Nat) :
    firstFree taken name taken.length n ∉ taken := by
  intro member
  have different : ((List.range' n (taken.length + 1)).map (numbered name)).Nodup :=
    List.Nodup.map (numbered_injective name) List.nodup_range'
  have few := different.length_le_of_subset (firstFree_taken member)
  rw [List.length_map, List.length_range'] at few
  omega

/-- A found name has a number from `n` on, and all numbers from `n` up to it are taken. -/
theorem firstFree_numbered (taken : List String) (name : String) (count n : Nat) :
    ∃ number, firstFree taken name count n = numbered name number ∧ n ≤ number ∧
      ∀ passed, n ≤ passed → passed < number → numbered name passed ∈ taken := by
  induction count generalizing n with
  | zero => exact ⟨n, rfl, Nat.le_refl n, fun passed low high => absurd low (by omega)⟩
  | succ count ih =>
    rw [firstFree]
    split
    · next known =>
      obtain ⟨number, found, later, passedOver⟩ := ih (n + 1)
      refine ⟨number, found, by omega, fun passed low high => ?_⟩
      rcases Nat.eq_or_lt_of_le low with rfl | above
      · exact known
      · exact passedOver passed above high
    · exact ⟨n, rfl, Nat.le_refl n, fun passed low high => absurd low (by omega)⟩

variable {seen : Seen} {names : List String}

theorem not_met_iff {name : String} : seen.lookup name = none ↔ name ∉ seen.map Prod.fst := by
  rw [List.lookup_eq_none_iff]
  constructor
  · intro others member
    obtain ⟨entry, held, rfl⟩ := List.mem_map.mp member
    simpa using others entry held
  · intro new entry held
    have other : name ≠ entry.1 := fun same => new (same ▸ List.mem_map_of_mem held)
    simpa using other

/-- One more name is made distinct from the names met, and is one of them from then on. -/
theorem distinctAfter_cons (seen : Seen) (name : String) (rest : List String) :
    ∃ made met, distinctAfter seen (name :: rest) = made :: distinctAfter met rest ∧
      made ∉ seen.map Prod.fst ∧
      (∀ other, other ∈ met.map Prod.fst ↔ other = made ∨ other ∈ seen.map Prod.fst) ∧
      (name ∉ seen.map Prod.fst → made = name) ∧
      (made = name ∨ ∃ number, made = numbered name number) := by
  rw [distinctAfter]
  cases held : seen.lookup name with
  | none =>
    have new : name ∉ seen.map Prod.fst := not_met_iff.mp held
    exact ⟨name, (name, 1) :: seen, rfl, new, by simp, fun _ => rfl, .inl rfl⟩
  | some count =>
    have known : name ∈ seen.map Prod.fst := by
      by_contra new
      rw [not_met_iff.mpr new] at held
      cases held
    let met : Seen := (name, count + 1) :: seen
    have free := firstFree_new (met.map Prod.fst) name (count + 1)
    rw [List.length_map] at free
    refine ⟨firstFree (met.map Prod.fst) name met.length (count + 1), _, rfl, ?_, ?_, ?_, ?_⟩
    · exact fun taken => free (List.mem_cons_of_mem _ taken)
    · intro other
      rw [List.map_cons, List.mem_cons, List.map_cons, List.mem_cons]
      constructor
      · rintro (made | rfl | before)
        · exact .inl made
        · exact .inr known
        · exact .inr before
      · rintro (made | before)
        · exact .inl made
        · exact .inr (.inr before)
    · exact fun new => absurd known new
    · obtain ⟨number, found, -⟩ := firstFree_numbered (met.map Prod.fst) name met.length (count + 1)
      exact .inr ⟨number, found⟩

/-- The names made are distinct from each other and from the names met before. -/
theorem distinctAfter_new (seen : Seen) (names : List String) :
    (distinctAfter seen names).Nodup ∧ ∀ name ∈ distinctAfter seen names, name ∉ seen.map Prod.fst := by
  induction names generalizing seen with
  | nil => simp [distinctAfter]
  | cons name rest ih =>
    obtain ⟨made, met, whole, new, grown, -, -⟩ := distinctAfter_cons seen name rest
    obtain ⟨different, later⟩ := ih met
    rw [whole]
    refine ⟨List.nodup_cons.mpr ⟨?_, different⟩, List.forall_mem_cons.mpr ⟨new, ?_⟩⟩
    · exact fun again => later made again ((grown made).mpr (.inl rfl))
    · exact fun other member before => later other member ((grown other).mpr (.inr before))

theorem distinctAfter_length (seen : Seen) (names : List String) :
    (distinctAfter seen names).length = names.length := by
  induction names generalizing seen with
  | nil => rfl
  | cons name rest ih =>
    obtain ⟨made, met, whole, -⟩ := distinctAfter_cons seen name rest
    rw [whole, List.length_cons, List.length_cons, ih]

theorem distinctAfter_plain (plain : ∀ name ∈ names, IsPlain name) :
    ∀ name ∈ distinctAfter seen names, IsPlain name := by
  induction names generalizing seen with
  | nil => simp [distinctAfter]
  | cons name rest ih =>
    obtain ⟨first, others⟩ := List.forall_mem_cons.mp plain
    obtain ⟨made, met, whole, -, -, -, shape⟩ := distinctAfter_cons seen name rest
    rw [whole]
    refine List.forall_mem_cons.mpr ⟨?_, ih others⟩
    rcases shape with rfl | ⟨number, rfl⟩
    · exact first
    · exact numbered_plain first number

/-- Names that are new and different are all kept. -/
theorem distinctAfter_of_nodup (different : names.Nodup)
    (new : ∀ name ∈ names, name ∉ seen.map Prod.fst) : distinctAfter seen names = names := by
  induction names generalizing seen with
  | nil => rfl
  | cons name rest ih =>
    obtain ⟨other, restDifferent⟩ := List.nodup_cons.mp different
    obtain ⟨first, others⟩ := List.forall_mem_cons.mp new
    obtain ⟨made, met, whole, -, grown, same, -⟩ := distinctAfter_cons seen name rest
    obtain rfl := same first
    rw [whole, ih restDifferent]
    intro later member before
    rcases (grown later).mp before with rfl | before
    · exact other member
    · exact others later member before

/-- No two of the names that are made are the same. -/
theorem nodup_distinct (names : List String) : (distinct names).Nodup :=
  (distinctAfter_new [] names).1

theorem distinct_length (names : List String) : (distinct names).length = names.length :=
  distinctAfter_length [] names

/-- Plain names become plain names. -/
theorem distinct_plain (plain : ∀ name ∈ names, IsPlain name) :
    ∀ name ∈ distinct names, IsPlain name :=
  distinctAfter_plain plain

/-- Names without repetitions stay as they are. -/
theorem distinct_of_nodup (different : names.Nodup) : distinct names = names :=
  distinctAfter_of_nodup different (by simp)

end Alias

namespace Aggregation

theorem withDistinctAliases_names (aggregations : List Aggregation) :
    (withDistinctAliases aggregations).map (·.resultName) =
      Alias.distinct (aggregations.map (·.resultName)) := by
  have paired := Alias.distinct_length (aggregations.map (·.resultName))
  rw [withDistinctAliases, List.map_zipWith]
  generalize Alias.distinct (aggregations.map (·.resultName)) = names at paired ⊢
  induction aggregations generalizing names with
  | nil => simpa using paired
  | cons aggregation rest ih =>
    cases names with
    | nil => simp at paired
    | cons name others =>
      rw [List.zipWith_cons_cons, ih others (by simpa using paired)]

theorem withDistinctAliases_of_nodup {aggregations : List Aggregation}
    (distinct : (aggregations.map (·.resultName)).Nodup) :
    withDistinctAliases aggregations = aggregations := by
  rw [withDistinctAliases, Alias.distinct_of_nodup distinct, List.zipWith_map_right,
    List.zipWith_self]
  exact List.map_id _

end Aggregation

/-- Making names distinct changes the names and nothing else. -/
theorem renamed_distinct (aggregations : List Aggregation) :
    List.Forall₂ (fun before after => ∃ name, after = { before with resultName := name })
      aggregations (Aggregation.withDistinctAliases aggregations) := by
  have paired := Alias.distinct_length (aggregations.map (·.resultName))
  rw [Aggregation.withDistinctAliases]
  generalize Alias.distinct (aggregations.map (·.resultName)) = names at paired ⊢
  induction aggregations generalizing names with
  | nil => exact .nil
  | cons aggregation rest ih =>
    cases names with
    | nil => simp at paired
    | cons name others => exact .cons ⟨name, rfl⟩ (ih others (by simpa using paired))

end ColumnQuery
