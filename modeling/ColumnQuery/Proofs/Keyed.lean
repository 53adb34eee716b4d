import ColumnQuery.Keyed
import Mathlib.Data.List.Induction
import Mathlib.Data.String.Basic

/-! Named values in the order of their names. What is put together by insertion is sorted, and sorted
entries are put together again as they are. An insertion or a removal is seen under its own names only. -/
namespace ColumnQuery.Keyed

variable {α : Type} {entries : Keyed α} {key : String} {value : α}

/-- Whether the names increase, so that none of them occurs twice. -/
def IsSorted (entries : Keyed α) : Prop :=
  entries.Pairwise fun entry later => entry.1 < later.1

instance (entries : Keyed α) : Decidable (IsSorted entries) :=
  inferInstanceAs (Decidable (entries.Pairwise fun entry later => entry.1 < later.1))

/-! ## Building -/

theorem mem_of_mem_insert {entry : String × α} (member : entry ∈ insert key value entries) :
    entry = (key, value) ∨ entry ∈ entries := by
  induction entries with
  | nil => exact .inl (List.mem_singleton.mp member)
  | cons head rest ih =>
    rw [insert] at member
    split_ifs at member
    · rcases List.mem_cons.mp member with same | later
      · exact .inl same
      · exact .inr (.tail _ later)
    · exact List.mem_cons.mp member
    · rcases List.mem_cons.mp member with same | later
      · exact .inr (same ▸ .head _)
      · exact (ih later).imp_right (.tail _)

/-- Insertion keeps the order. -/
theorem isSorted_insert (sorted : IsSorted entries) (key : String) (value : α) :
    IsSorted (insert key value entries) := by
  induction entries with
  | nil => exact List.pairwise_singleton ..
  | cons head rest ih =>
    obtain ⟨before, sortedRest⟩ := List.pairwise_cons.mp sorted
    rw [insert]
    split_ifs with same less
    · subst same
      exact .cons before sortedRest
    · refine .cons (List.forall_mem_cons.mpr ⟨less, fun entry member => ?_⟩) sorted
      exact less.trans (before entry member)
    · refine .cons (fun entry member => ?_) (ih sortedRest)
      rcases mem_of_mem_insert member with rfl | earlier
      · exact lt_of_le_of_ne (not_lt.mp less) (Ne.symm same)
      · exact before entry earlier

theorem isSorted_ofList (entries : List (String × α)) : IsSorted (ofList entries) := by
  induction entries using List.reverseRecOn with
  | nil => exact .nil
  | append_singleton entries entry ih =>
    rw [ofList, List.foldl_append]
    exact isSorted_insert ih entry.1 entry.2

/-- A name that comes after all others is put at the end. -/
theorem insert_last (after : ∀ entry ∈ entries, entry.1 < key) :
    insert key value entries = entries ++ [(key, value)] := by
  induction entries with
  | nil => rfl
  | cons head rest ih =>
    obtain ⟨first, others⟩ := List.forall_mem_cons.mp after
    rw [insert, if_neg first.ne', if_neg first.not_gt, ih others, List.cons_append]

/-- Entries that are sorted are put together as they are. -/
theorem ofList_of_isSorted (sorted : IsSorted entries) : ofList entries = entries := by
  induction entries using List.reverseRecOn with
  | nil => rfl
  | append_singleton entries entry ih =>
    obtain ⟨earlier, -, last⟩ := List.pairwise_append.mp sorted
    have built : ofList entries = entries := ih earlier
    rw [ofList, List.foldl_append]
    change insert entry.1 entry.2 (ofList entries) = _
    rw [built]
    exact insert_last fun other member => last other member entry (.head _)

/-! ## Looking up -/

theorem find?_cons (name : String) (held : α) (rest : Keyed α) (key : String) :
    find? ((name, held) :: rest) key = if key = name then some held else find? rest key := by
  rw [find?, List.lookup_cons]
  by_cases same : key = name
  · rw [if_pos same, beq_iff_eq.mpr same]
  · rw [if_neg same, beq_eq_false_iff_ne.mpr same]
    rfl

/-- An insertion changes what is under its name. -/
theorem find?_insert (entries : Keyed α) (key : String) (value : α) (other : String) :
    (insert key value entries).find? other = if other = key then some value else entries.find? other := by
  induction entries with
  | nil => exact find?_cons ..
  | cons head rest ih =>
    obtain ⟨name, held⟩ := head
    rw [insert]
    by_cases same : key = name
    · subst same
      rw [if_pos rfl, find?_cons, find?_cons]
      split <;> rfl
    · rw [if_neg same]
      by_cases less : key < name
      · rw [if_pos less]
        exact find?_cons ..
      · rw [if_neg less, find?_cons, find?_cons, ih]
        by_cases here : other = name
        · rw [if_pos here, if_pos here, if_neg fun own => same (own.symm.trans here)]
        · rw [if_neg here, if_neg here]

/-- The entries under other names than these. -/
def without (names : List String) (entries : Keyed α) : Keyed α :=
  entries.filter fun entry => entry.1 ∉ names

/-- A removal leaves nothing under its names. -/
theorem find?_without (names : List String) (entries : Keyed α) (key : String) :
    (without names entries).find? key = if key ∈ names then none else entries.find? key := by
  induction entries with
  | nil => exact (ite_self _).symm
  | cons head rest ih =>
    obtain ⟨name, held⟩ := head
    rw [without, List.filter_cons]
    by_cases removed : name ∈ names
    · rw [if_neg (by simpa using removed), find?_cons]
      refine ih.trans ?_
      by_cases same : key = name
      · rw [if_pos (same ▸ removed), if_pos (same ▸ removed)]
      · rw [if_neg same]
    · rw [if_pos (by simpa using removed), find?_cons, find?_cons]
      by_cases same : key = name
      · rw [if_pos same, if_pos same, if_neg (same ▸ removed)]
      · rw [if_neg same, if_neg same]
        exact ih

end ColumnQuery.Keyed
