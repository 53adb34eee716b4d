import ColumnQuery.Metadata.Asking
import Mathlib.Control.Basic

/-! Laws of computations that ask a store. Going on is associative, and a computation that succeeds
went on from a success. The lookups made are part of these facts: no law forgets one. -/
namespace ColumnQuery.Asking

variable {ε δ α β γ : Type}

theorem andThen_done (computation : Asking ε α) : computation.andThen done = computation := by
  funext metadata lookups
  rw [andThen]
  cases computation metadata lookups with
  | mk result later => cases result <;> rfl

/-- Three computations may be grouped either way: the lookups and the end are the same. -/
theorem andThen_assoc (first : Asking ε α) (second : α → Asking ε β) (third : β → Asking ε γ) :
    (first.andThen second).andThen third =
      first.andThen fun value => (second value).andThen third := by
  funext metadata lookups
  simp only [andThen]
  cases first metadata lookups with
  | mk result later => cases result <;> rfl

instance : LawfulMonad (Asking ε) :=
  LawfulMonad.mk' (Asking ε) andThen_done (fun _ _ => rfl) andThen_assoc

section Succeeded

variable {metadata : Metadata} {lookups later : List Lookup}

theorem ended_of_result {asked : Asked ε α} {result : Except ε α} (ended : asked.result = result) :
    asked = ⟨result, asked.lookups⟩ := by
  rw [← ended]

theorem bind_of_ok {first : Asking ε α} {value : α} (next : α → Asking ε β)
    (ended : first metadata lookups = ⟨.ok value, later⟩) :
    (first >>= next) metadata lookups = next value metadata later := by
  change first.andThen next metadata lookups = _
  rw [andThen, ended]

/-- Nothing is asked after a failure. -/
theorem bind_of_error {first : Asking ε α} {cause : ε} (next : α → Asking ε β)
    (ended : first metadata lookups = ⟨.error cause, later⟩) :
    (first >>= next) metadata lookups = ⟨.error cause, later⟩ := by
  change first.andThen next metadata lookups = _
  rw [andThen, ended]

/-- Two stores that agree on a computation and on what it goes on with agree on the whole. -/
theorem bind_agrees {first : Asking ε α} {next : α → Asking ε β} {other : Metadata}
    (same : first metadata lookups = first other lookups)
    (goes : ∀ value later, first other lookups = ⟨.ok value, later⟩ →
      next value metadata later = next value other later) :
    (first >>= next) metadata lookups = (first >>= next) other lookups := by
  cases ended : first other lookups with
  | mk result later =>
    rw [ended] at same
    cases result with
    | error cause => rw [bind_of_error _ same, bind_of_error _ ended]
    | ok value => rw [bind_of_ok _ same, bind_of_ok _ ended, goes value later ended]

/-- A computation that went on to a success was successful before. -/
theorem ok_of_bind {first : Asking ε α} {next : α → Asking ε β} {value : β}
    (ended : (first >>= next) metadata lookups = ⟨.ok value, later⟩) :
    ∃ found between, first metadata lookups = ⟨.ok found, between⟩ ∧
      next found metadata between = ⟨.ok value, later⟩ := by
  change first.andThen next metadata lookups = _ at ended
  rw [andThen] at ended
  cases began : first metadata lookups with
  | mk result between =>
    rw [began] at ended
    cases result with
    | error cause => cases ended
    | ok found => exact ⟨found, between, rfl, ended⟩

theorem ok_of_mapError {computation : Asking ε α} {f : ε → δ} {value : α}
    (ended : computation.mapError f metadata lookups = ⟨.ok value, later⟩) :
    computation metadata lookups = ⟨.ok value, later⟩ := by
  rw [mapError] at ended
  cases began : computation metadata lookups with
  | mk result between =>
    rw [began] at ended
    cases result with
    | error cause => cases ended
    | ok found =>
      cases ended
      rfl

end Succeeded

end ColumnQuery.Asking
