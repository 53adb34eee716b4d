import Mathlib.Data.List.Forall2

/-! How an outcome came about. Each way of going on after an outcome succeeds only when the outcome
itself did, and of several faults the first that is met is the one reported. -/
namespace ColumnQuery.Outcome

variable {ε δ α β : Type}

theorem ok_of_map {outcome : Except ε α} {f : α → β} {value : β}
    (made : outcome.map f = .ok value) : ∃ first, outcome = .ok first ∧ f first = value := by
  cases outcome with
  | error cause => cases made
  | ok first => exact ⟨first, rfl, Except.ok.inj made⟩

theorem error_of_map {outcome : Except ε α} {f : α → β} {cause : ε}
    (failed : outcome.map f = .error cause) : outcome = .error cause := by
  cases outcome with
  | error other => exact congrArg Except.error (Except.error.inj failed)
  | ok first => cases failed

theorem ok_of_mapError {outcome : Except ε α} {f : ε → δ} {value : α}
    (made : outcome.mapError f = .ok value) : outcome = .ok value := by
  cases outcome with
  | error cause => cases made
  | ok first => exact congrArg Except.ok (Except.ok.inj made)

theorem bind_of_ok {outcome : Except ε α} {value : α} (next : α → Except ε β)
    (made : outcome = .ok value) : outcome >>= next = next value := by
  rw [made]
  rfl

theorem ok_of_bind {outcome : Except ε α} {next : α → Except ε β} {value : β}
    (made : outcome >>= next = .ok value) :
    ∃ first, outcome = .ok first ∧ next first = .ok value := by
  cases outcome with
  | error cause => cases made
  | ok first => exact ⟨first, rfl, made⟩

/-- What goes wrong is the first step or, after its success, what follows. -/
theorem error_of_bind {outcome : Except ε α} {next : α → Except ε β} {cause : ε}
    (failed : outcome >>= next = .error cause) :
    outcome = .error cause ∨ ∃ first, outcome = .ok first ∧ next first = .error cause := by
  cases outcome with
  | error other => exact .inl (congrArg Except.error (Except.error.inj failed))
  | ok first => exact .inr ⟨first, rfl, failed⟩

/-- A list of steps succeeds only when each step does, and its values are theirs in order. -/
theorem ok_of_mapM {step : α → Except ε β} {inputs : List α} {values : List β}
    (made : inputs.mapM step = .ok values) :
    List.Forall₂ (fun input value => step input = .ok value) inputs values := by
  induction inputs generalizing values with
  | nil =>
    cases made
    exact .nil
  | cons input rest ih =>
    rw [List.mapM_cons] at made
    obtain ⟨value, first, made⟩ := ok_of_bind made
    obtain ⟨others, following, made⟩ := ok_of_bind made
    cases made
    exact .cons first (ih following)

/-- A list of steps fails at its first step that fails, with the error of that step. -/
theorem error_of_mapM {step : α → Except ε β} {inputs : List α} {cause : ε}
    (failed : inputs.mapM step = .error cause) :
    ∃ before input after, inputs = before ++ input :: after ∧
      (∀ other ∈ before, ∃ value, step other = .ok value) ∧ step input = .error cause := by
  induction inputs with
  | nil => cases failed
  | cons input rest ih =>
    rw [List.mapM_cons] at failed
    cases first : step input with
    | error other =>
      rw [first] at failed
      cases failed
      exact ⟨[], input, rest, rfl, by simp, first⟩
    | ok value =>
      rw [first] at failed
      cases following : rest.mapM step with
      | ok others =>
        rw [following] at failed
        cases failed
      | error other =>
        rw [following] at failed
        cases failed
        obtain ⟨before, failing, after, rfl, passed, fails⟩ := ih following
        exact ⟨input :: before, failing, after, rfl, by simpa [first] using passed, fails⟩

/-- A list of steps succeeds exactly when every step does. -/
theorem mapM_ok_iff {step : α → Except ε β} {inputs : List α} :
    (∃ values, inputs.mapM step = .ok values) ↔ ∀ input ∈ inputs, ∃ value, step input = .ok value := by
  constructor
  · rintro ⟨values, made⟩
    have each := ok_of_mapM made
    clear made
    induction each with
    | nil => simp
    | cons first later ih => exact List.forall_mem_cons.mpr ⟨⟨_, first⟩, ih⟩
  · intro each
    cases made : inputs.mapM step with
    | ok values => exact ⟨values, rfl⟩
    | error cause =>
      obtain ⟨before, input, after, rfl, -, failed⟩ := error_of_mapM made
      obtain ⟨value, passed⟩ := each input (by simp)
      rw [passed] at failed
      cases failed

theorem each_value {inputs : List α} {values : List β} {p : β → Prop}
    (each : List.Forall₂ (fun _ value => p value) inputs values) : ∀ value ∈ values, p value := by
  induction each with
  | nil => simp
  | cons head tail ih => exact List.forall_mem_cons.mpr ⟨head, ih⟩

/-- What every successful step ensures of its value holds of all values of a list of steps. -/
theorem each_of_mapM {step : α → Except ε β} {inputs : List α} {values : List β} {p : β → Prop}
    (made : inputs.mapM step = .ok values)
    (ensured : ∀ {input value}, step input = .ok value → p value) : ∀ value ∈ values, p value :=
  each_value ((ok_of_mapM made).imp fun _ _ => ensured)

/-- Values that can each be read back from what they were written as can be read back as a list. -/
theorem mapM_of_each {step : α → Except ε β} {write : β → α} {values : List β}
    (each : ∀ value ∈ values, step (write value) = .ok value) :
    (values.map write).mapM step = .ok values := by
  induction values with
  | nil => rfl
  | cons value rest ih =>
    obtain ⟨first, others⟩ := List.forall_mem_cons.mp each
    rw [List.map_cons, List.mapM_cons, first, ih others]
    rfl

/-- Steps that all succeed give a list of their values. -/
theorem mapM_of_values {step : α → Except ε β} {value : α → β} {inputs : List α}
    (each : ∀ input ∈ inputs, step input = .ok (value input)) :
    inputs.mapM step = .ok (inputs.map value) := by
  induction inputs with
  | nil => rfl
  | cons input rest ih =>
    obtain ⟨first, following⟩ := List.forall_mem_cons.mp each
    rw [List.mapM_cons, first, ih following]
    rfl

/-- Steps over values that were replaced one by one, when each ends as the step that it replaces. -/
theorem mapM_of_map {γ : Type} {step : α → Except ε β} {other : γ → Except ε β} {f : α → γ}
    {inputs : List α} (each : ∀ input ∈ inputs, other (f input) = step input) :
    (inputs.map f).mapM other = inputs.mapM step := by
  induction inputs with
  | nil => rfl
  | cons input rest ih =>
    obtain ⟨first, following⟩ := List.forall_mem_cons.mp each
    rw [List.map_cons, List.mapM_cons, List.mapM_cons, first, ih following]

/-- Lists of steps that each end alike end alike. -/
theorem mapM_congr {step other : α → Except ε β} {inputs : List α}
    (each : ∀ input ∈ inputs, other input = step input) : inputs.mapM other = inputs.mapM step := by
  have mapped := mapM_of_map (f := id) each
  rwa [List.map_id] at mapped

/-! ## First faults -/

/-- An outcome of something with these faults: it fails with the first of them, and succeeds if there
is none. -/
def Reports (outcome : Except ε α) (faults : List ε) : Prop :=
  match faults with
  | [] => ∃ value, outcome = .ok value
  | fault :: _ => outcome = .error fault

section Reports

variable {outcome : Except ε α} {faults : List ε}

theorem Reports.ok_iff (reports : Reports outcome faults) :
    (∃ value, outcome = .ok value) ↔ faults = [] := by
  cases faults with
  | nil => exact iff_of_true reports rfl
  | cons fault others =>
    have failed : outcome = .error fault := reports
    simp [failed]

/-- The error is the first fault. -/
theorem Reports.error_iff (reports : Reports outcome faults) {error : ε} :
    outcome = .error error ↔ faults.head? = some error := by
  cases faults with
  | nil =>
    obtain ⟨value, made⟩ := reports
    simp [made]
  | cons fault others =>
    have failed : outcome = .error fault := reports
    simp [failed]

theorem reports_ok (value : α) : Reports (.ok value : Except ε α) [] :=
  ⟨value, rfl⟩

theorem Reports.map (reports : Reports outcome faults) (f : α → β) :
    Reports (outcome.map f) faults := by
  cases faults with
  | nil =>
    obtain ⟨value, rfl⟩ := reports
    exact reports_ok (f value)
  | cons fault others =>
    obtain rfl : outcome = .error fault := reports
    exact rfl

/-- What goes on after an outcome has its faults behind those of the outcome. -/
theorem Reports.bind {next : α → Except ε β} {others : List ε} (reports : Reports outcome faults)
    (goes : ∀ value, Reports (next value) others) : Reports (outcome >>= next) (faults ++ others) := by
  cases faults with
  | nil =>
    obtain ⟨value, rfl⟩ := reports
    exact goes value
  | cons fault rest =>
    obtain rfl : outcome = .error fault := reports
    exact rfl

/-- The faults of a list of steps are those of each step in order. -/
theorem reports_mapM {step : α → Except ε β} {faults : α → List ε} {inputs : List α}
    (each : ∀ input ∈ inputs, Reports (step input) (faults input)) :
    Reports (inputs.mapM step) (inputs.flatMap faults) := by
  induction inputs with
  | nil => exact reports_ok []
  | cons input rest ih =>
    obtain ⟨first, others⟩ := List.forall_mem_cons.mp each
    rw [List.mapM_cons, List.flatMap_cons]
    refine first.bind fun value => ?_
    have following := (ih others).bind fun values => reports_ok (value :: values)
    rwa [List.append_nil] at following

end Reports

end ColumnQuery.Outcome
