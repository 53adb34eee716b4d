import ColumnQuery.Proofs.Query.Alias

/-! The rule by which results are named. From left to right a name is kept if no result before it has
it, and otherwise gets the least number that makes it a new one. The names are made with a count for each
name met and a search that begins at the count; that this comes to the same is what is shown here. The
rule itself knows no counts. -/
namespace ColumnQuery

namespace Alias

/-- What becomes of one more name after names that were made already. -/
inductive IsNamedAfter (earlier : List String) (name : String) : String → Prop
  | kept (new : name ∉ earlier) : IsNamedAfter earlier name name
  | numbered {n : Nat} (used : name ∈ earlier) (fromTwo : 2 ≤ n)
      (free : Alias.numbered name n ∉ earlier)
      (least : ∀ m, 2 ≤ m → m < n → Alias.numbered name m ∈ earlier) :
      IsNamedAfter earlier name (Alias.numbered name n)

/-- Each name became what the rule says, given what the names before it became. -/
structure IsNamedByRule (names made : List String) : Prop where
  paired : made.length = names.length
  each : ∀ k name final, names[k]? = some name → made[k]? = some final →
    IsNamedAfter (made.take k) name final

/-! ## The rule decides -/

section Rule

variable {earlier names made other : List String} {name first second : String}

/-- The rule leaves one name only. -/
theorem isNamedAfter_unique (one : IsNamedAfter earlier name first)
    (two : IsNamedAfter earlier name second) : first = second := by
  cases one with
  | kept new =>
    cases two with
    | kept _ => rfl
    | numbered used _ _ _ => exact absurd used new
  | @numbered n used fromTwo free least =>
    cases two with
    | kept new => exact absurd used new
    | @numbered m _ otherFromTwo otherFree otherLeast =>
      rcases Nat.lt_trichotomy n m with before | rfl | after
      · exact absurd (otherLeast n fromTwo before) free
      · rfl
      · exact absurd (least m otherFromTwo after) otherFree

/-- There is one way at most to name results by the rule. -/
theorem isNamedByRule_unique (one : IsNamedByRule names made) (two : IsNamedByRule names other) :
    made = other := by
  have sameUpTo (k : Nat) : made.take k = other.take k := by
    induction k with
    | zero => rfl
    | succ k ih =>
      rw [List.take_add_one, List.take_add_one, ih]
      by_cases inside : k < names.length
      · have madeHas := List.getElem?_eq_getElem (l := made) (one.paired ▸ inside)
        have otherHas := List.getElem?_eq_getElem (l := other) (two.paired ▸ inside)
        have asked := List.getElem?_eq_getElem inside
        have same := isNamedAfter_unique (ih ▸ one.each k _ _ asked madeHas)
          (two.each k _ _ asked otherHas)
        rw [madeHas, otherHas, same]
      · rw [List.getElem?_eq_none (by rw [one.paired]; omega),
          List.getElem?_eq_none (by rw [two.paired]; omega)]
  have whole := sameUpTo names.length
  rwa [List.take_of_length_le (Nat.le_of_eq one.paired),
    List.take_of_length_le (Nat.le_of_eq two.paired)] at whole

/-- The rule looks to the left only. -/
theorem isNamedByRule_take (named : IsNamedByRule names made) (length : Nat) :
    IsNamedByRule (names.take length) (made.take length) := by
  constructor
  · rw [List.length_take, List.length_take, named.paired]
  · intro k name final asked has
    have inside : k < length := by
      by_contra beyond
      rw [List.getElem?_take_eq_none (Nat.le_of_not_lt beyond)] at asked
      cases asked
    rw [List.getElem?_take_of_lt inside] at asked has
    rw [List.take_take, Nat.min_eq_left (Nat.le_of_lt inside)]
    exact named.each k name final asked has

end Rule

/-! ## Counting follows the rule -/

/-- The names met, against the names made so far: they are the same, and a name that was met so many
times has all its numbers up to that among the names made. So a search that begins at the count passes
over no number that is free. -/
structure Tracks (seen : Seen) (earlier : List String) : Prop where
  met : ∀ name, name ∈ seen.map Prod.fst ↔ name ∈ earlier
  counted : ∀ name count, seen.lookup name = some count → 1 ≤ count ∧
    ∀ n, 2 ≤ n → n ≤ count → numbered name n ∈ earlier

theorem tracks_nothing : Tracks [] [] where
  met name := by simp
  counted name count held := by cases held

variable {seen : Seen} {earlier names : List String} {name : String} {count : Nat}

/-- A name that was never met is met once. -/
theorem tracks_new (tracks : Tracks seen earlier) (name : String) :
    Tracks ((name, 1) :: seen) (earlier ++ [name]) where
  met other := by
    rw [List.map_cons, List.mem_cons, List.mem_append, List.mem_singleton, tracks.met]
    exact or_comm
  counted other count held := by
    rw [List.lookup_cons] at held
    split at held
    · cases held
      exact ⟨Nat.le_refl 1, fun n low high => absurd low (by omega)⟩
    · obtain ⟨positive, below⟩ := tracks.counted other count held
      exact ⟨positive, fun n low high => List.mem_append_left _ (below n low high)⟩

/-- A name that is met again counts once more, and its next free number is met once. The number is the
next count itself unless that is taken, so in either case the numbers up to the count are made. -/
theorem tracks_again {n : Nat} (tracks : Tracks seen earlier) (held : seen.lookup name = some count)
    (free : numbered name n ∉ earlier)
    (passed : ∀ m, count + 1 ≤ m → m < n → numbered name m ∈ earlier) (low : count + 1 ≤ n) :
    Tracks ((numbered name n, 1) :: (name, count + 1) :: seen) (earlier ++ [numbered name n]) where
  met other := by
    have known : name ∈ earlier := by
      rw [← tracks.met]
      by_contra new
      rw [not_met_iff.mpr new] at held
      cases held
    simp only [List.map_cons, List.mem_cons, List.mem_append, List.mem_nil_iff, or_false, tracks.met]
    constructor
    · rintro (made | rfl | before)
      · exact .inr made
      · exact .inl known
      · exact .inl before
    · rintro (before | made)
      · exact .inr (.inr before)
      · exact .inl made
  counted other times found := by
    rw [List.lookup_cons] at found
    split at found
    · cases found
      exact ⟨Nat.le_refl 1, fun m low high => absurd low (by omega)⟩
    · rw [List.lookup_cons] at found
      split at found
      · next same =>
        obtain rfl : other = name := by simpa using same
        cases found
        refine ⟨by omega, fun m fromTwo high => ?_⟩
        rcases Nat.eq_or_lt_of_le high with rfl | below
        · rcases Nat.eq_or_lt_of_le low with rfl | before
          · exact List.mem_append_right _ (List.mem_singleton.mpr rfl)
          · exact List.mem_append_left _ (passed _ (Nat.le_refl _) before)
        · have before := (tracks.counted other count held).2 m fromTwo (by omega)
          exact List.mem_append_left _ before
      · obtain ⟨positive, below⟩ := tracks.counted other times found
        exact ⟨positive, fun m fromTwo high => List.mem_append_left _ (below m fromTwo high)⟩

/-- One more name is made by the rule, and the counts keep up with the names made. -/
theorem distinctAfter_named (tracks : Tracks seen earlier) (name : String) (rest : List String) :
    ∃ made met, distinctAfter seen (name :: rest) = made :: distinctAfter met rest ∧
      IsNamedAfter earlier name made ∧ Tracks met (earlier ++ [made]) := by
  rw [distinctAfter]
  cases held : seen.lookup name with
  | none =>
    have new : name ∉ earlier := fun known => not_met_iff.mp held ((tracks.met name).mpr known)
    exact ⟨name, _, rfl, .kept new, tracks_new tracks name⟩
  | some count =>
    have known : name ∈ earlier := by
      by_contra new
      rw [not_met_iff.mpr (mt (tracks.met name).mp new)] at held
      cases held
    obtain ⟨positive, below⟩ := tracks.counted name count held
    let met : Seen := (name, count + 1) :: seen
    have taken (other : String) : other ∈ met.map Prod.fst ↔ other ∈ earlier := by
      rw [List.map_cons, List.mem_cons, tracks.met]
      exact or_iff_right_of_imp fun same => same ▸ known
    have new := firstFree_new (met.map Prod.fst) name (count + 1)
    rw [List.length_map] at new
    obtain ⟨n, found, low, passed⟩ := firstFree_numbered (met.map Prod.fst) name met.length (count + 1)
    have free : numbered name n ∉ earlier := by rwa [found, taken] at new
    have passedOver : ∀ m, count + 1 ≤ m → m < n → numbered name m ∈ earlier :=
      fun m from_count before => (taken _).mp (passed m from_count before)
    refine ⟨numbered name n, _, by rw [← found], ?_, tracks_again tracks held free passedOver low⟩
    refine .numbered known (by omega) free fun m fromTwo before => ?_
    rcases Nat.lt_or_ge count m with above | inCount
    · exact passedOver m above before
    · exact below m fromTwo inCount

/-- Each name is the one that the rule picks after those before it. -/
theorem distinctAfter_each (tracks : Tracks seen earlier) {k : Nat} {final : String}
    (asked : names[k]? = some name) (has : (distinctAfter seen names)[k]? = some final) :
    IsNamedAfter (earlier ++ (distinctAfter seen names).take k) name final := by
  induction names generalizing seen earlier k with
  | nil => cases asked
  | cons head rest ih =>
    obtain ⟨made, met, whole, named, kept⟩ := distinctAfter_named tracks head rest
    rw [whole] at has ⊢
    cases k with
    | zero =>
      cases asked
      cases has
      rwa [List.take_zero, List.append_nil]
    | succ k =>
      have later := ih kept asked has
      rwa [List.append_assoc] at later

theorem distinct_isNamedByRule (names : List String) : IsNamedByRule names (distinct names) where
  paired := distinct_length names
  each _ _ _ asked has := distinctAfter_each tracks_nothing asked has

/-- The names made distinct are the ones that the rule makes. -/
theorem isNamedByRule_iff {made : List String} : IsNamedByRule names made ↔ made = distinct names := by
  constructor
  · exact fun named => isNamedByRule_unique named (distinct_isNamedByRule names)
  · rintro rfl
    exact distinct_isNamedByRule names

/-- Names that come later change nothing about those before them. -/
theorem distinct_take (names : List String) (length : Nat) :
    distinct (names.take length) = (distinct names).take length :=
  (isNamedByRule_iff.mp (isNamedByRule_take (distinct_isNamedByRule names) length)).symm

end Alias

namespace Aggregation

/-- Results are named by the rule and in no other way, whatever names their aggregations had: a name
stays if it is new, and otherwise gets the least free number, which is always found. Nothing of an
aggregation but its name changes. So no name is given twice, names without repetitions stay, naming
again changes nothing, and a result is named as if no aggregation came after it. -/
theorem naming_follows_rule (aggregations : List Aggregation) :
    (∀ names, Alias.IsNamedByRule (aggregations.map (·.resultName)) names ↔
        names = (withDistinctAliases aggregations).map (·.resultName)) ∧
      List.Forall₂ (fun before after => ∃ name, after = { before with resultName := name })
        aggregations (withDistinctAliases aggregations) ∧
      ((withDistinctAliases aggregations).map (·.resultName)).Nodup ∧
      ((aggregations.map (·.resultName)).Nodup → withDistinctAliases aggregations = aggregations) ∧
      withDistinctAliases (withDistinctAliases aggregations) = withDistinctAliases aggregations ∧
      ∀ length, withDistinctAliases (aggregations.take length) =
        (withDistinctAliases aggregations).take length := by
  have different : ((withDistinctAliases aggregations).map (·.resultName)).Nodup := by
    rw [withDistinctAliases_names]
    exact Alias.nodup_distinct _
  refine ⟨fun names => ?_, renamed_distinct aggregations, different, withDistinctAliases_of_nodup,
    withDistinctAliases_of_nodup different, fun length => ?_⟩
  · rw [withDistinctAliases_names]
    exact Alias.isNamedByRule_iff
  · rw [withDistinctAliases, withDistinctAliases, List.map_take, Alias.distinct_take, List.take_zipWith]

/-- A repeated name meets a name that already looks like a numbered one. -/
theorem repeated_sums_are_numbered :
    let sum := Aggregation.of .sum (some (.byName "price"))
    let names := ["sum", "sum_2", "sum_2_2", "sum_3"]
    Alias.IsNamedByRule ["sum", "sum", "sum_2", "sum"] names ∧
      (withDistinctAliases [sum, sum, sum.named "sum_2", sum]).map (·.resultName) = names := by
  intro sum names
  have made : (withDistinctAliases [sum, sum, sum.named "sum_2", sum]).map (·.resultName) = names := by
    decide +kernel
  have given : [sum, sum, sum.named "sum_2", sum].map (·.resultName) = ["sum", "sum", "sum_2", "sum"] := by
    decide +kernel
  have rule := (naming_follows_rule [sum, sum, sum.named "sum_2", sum]).1 names
  rw [given] at rule
  exact ⟨rule.mpr made.symm, made⟩

end Aggregation

end ColumnQuery
