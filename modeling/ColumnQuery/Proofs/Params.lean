import ColumnQuery.Proofs.Agreement
import ColumnQuery.Proofs.Keyed
import ColumnQuery.Proofs.Text.Bytes

/-! Parameters written as JSON and read back. Every member of an object is read by itself, so parameters
are read back from what they are written as, and of the members that cannot be read the first one in the
order of the names is reported. -/
namespace ColumnQuery
open Sql Text

/-! ## Writing -/

/-- What is given for a parameter, as JSON. -/
def Param.toJson : Param → Json
  | .noValue => .null
  | .scalar value => value.toJson
  | .list values => .array (values.map Literal.toJson)
  | .fieldFilter filter =>
    filterParam filter.operator filter.field (filter.values.map Literal.toJson) filter.caseSensitive

/-- Parameters as a JSON object. -/
def Params.toJson (params : Params) : Json :=
  .object (params.map fun entry => (entry.1, entry.2.toJson))

/-- Whether a parameter is made of literals that a JSON scalar stands for. Null alone is no scalar, as it
leaves a parameter empty. -/
def Param.IsPlain : Param → Prop
  | .noValue => True
  | .scalar value => value.IsScalar ∧ value ≠ .null
  | .list values => ∀ value ∈ values, value.IsScalar
  | .fieldFilter filter => ∀ value ∈ filter.values, value.IsScalar

namespace Param

/-! ## One parameter -/

section One

variable (name : String)

theorem toJson_isScalar (literal : Literal) : literal.toJson.IsScalar := by
  cases literal with
  | real value =>
    rw [Literal.toJson]
    split <;> trivial
  | _ => trivial

theorem scalar_reads {value : Json} (scalar : value.IsScalar) (present : value ≠ .null) :
    ofJson name value = .ok (.scalar value.literal) := by
  have found := ofJson_scalar scalar
  cases value with
  | null => exact absurd rfl present
  | array items => exact scalar.elim
  | object members => exact scalar.elim
  | _ => simp only [ofJson, found]

theorem single_value_reads {value : Json} (scalar : value.IsScalar) :
    valuesOfJson name (some value) = .ok [value.literal] := by
  have found := ofJson_scalar scalar
  cases value with
  | array items => exact scalar.elim
  | object members => exact scalar.elim
  | _ => simp only [valuesOfJson, found]

/-- Literals that are written as scalars are read back. -/
theorem literals_read_back {values : List Literal} (scalar : ∀ value ∈ values, value.IsScalar) :
    literalsOfJson name (values.map Literal.toJson) = .ok values := by
  refine Outcome.mapM_of_each fun value member => ?_
  rw [literal_reads_back (scalar value member)]

theorem scalar_reads_back {literal : Literal} (scalar : literal.IsScalar)
    (present : literal ≠ .null) : ofJson name literal.toJson = .ok (.scalar literal) := by
  have read := literal_reads_back scalar
  have same : literal.toJson.literal = literal := by rw [Json.literal, read, Option.getD_some]
  have written : literal.toJson ≠ .null := by
    intro empty
    rw [empty] at read
    exact present (Option.some.inj read).symm
  rw [scalar_reads name (toJson_isScalar literal) written, same]

/-- A plain parameter is read back from what it is written as. -/
theorem param_reads_back {param : Param} (plain : param.IsPlain) :
    ofJson name param.toJson = .ok param := by
  cases param with
  | noValue => rfl
  | scalar value => exact scalar_reads_back name plain.1 plain.2
  | list values => exact congrArg (Except.map Param.list) (literals_read_back name plain)
  | fieldFilter filter => exact filter_reads (literals_read_back name plain) ..

end One

section Plain

variable {name : String}

theorem literal_of_scalar {value : Json} (scalar : value.IsScalar) : value.literal.IsScalar :=
  literal_isScalar (ofJson_scalar scalar)

theorem literals_scalar {items : List Json} {values : List Literal}
    (read : literalsOfJson name items = .ok values) : ∀ value ∈ values, value.IsScalar := by
  refine Outcome.each_of_mapM read fun {item} {value} made => ?_
  cases found : Literal.ofJson? item with
  | none => simp [found] at made
  | some literal =>
    simp only [found, Except.ok.injEq] at made
    exact made ▸ literal_isScalar found

theorem values_scalar {given : Option Json} {values : List Literal}
    (read : valuesOfJson name given = .ok values) : ∀ value ∈ values, value.IsScalar := by
  have single {value : Json} (read : valuesOfJson name (some value) = .ok values)
      (scalar : value.IsScalar) : ∀ value ∈ values, value.IsScalar := by
    rw [single_value_reads name scalar] at read
    cases read
    exact List.forall_mem_singleton.mpr (literal_of_scalar scalar)
  cases given with
  | none =>
    cases read
    simp
  | some value =>
    cases value with
    | array items => exact literals_scalar read
    | object members => cases read
    | _ => exact single read trivial

theorem filter_scalar {members : Keyed Json} {filter : FieldFilter}
    (read : filterOfJson name members = .ok filter) : ∀ value ∈ filter.values, value.IsScalar := by
  obtain ⟨field, -, read⟩ := Outcome.ok_of_bind read
  obtain ⟨operator, -, read⟩ := Outcome.ok_of_bind read
  obtain ⟨values, made, read⟩ := Outcome.ok_of_bind read
  obtain ⟨caseSensitive, -, read⟩ := Outcome.ok_of_bind read
  cases read
  exact values_scalar made

/-- What is read for a parameter is plain. -/
theorem read_isPlain {value : Json} {param : Param} (read : ofJson name value = .ok param) :
    param.IsPlain := by
  have single {value : Json} (read : ofJson name value = .ok param) (scalar : value.IsScalar)
      (present : value ≠ .null) : param.IsPlain := by
    rw [scalar_reads name scalar present] at read
    cases read
    refine ⟨literal_of_scalar scalar, fun empty => present ?_⟩
    exact (literal_isNull_iff scalar).mp (by rw [empty]; rfl)
  cases value with
  | null =>
    cases read
    trivial
  | array items =>
    obtain ⟨values, made, rfl⟩ := Outcome.ok_of_map read
    exact literals_scalar made
  | object members =>
    obtain ⟨filter, made, rfl⟩ := Outcome.ok_of_map read
    exact filter_scalar made
  | _ => exact single read trivial (by simp)

end Plain

end Param

/-! ## All parameters -/

namespace Params

variable {members : Keyed Json} {params : Params} {error : ParamError}

/-- Reads one member of an object. -/
def memberOfJson (entry : String × Json) : Except ParamError (String × Param) :=
  (Param.ofJson entry.1 entry.2).map (entry.1, ·)

theorem ofMembers_eq_mapM (members : List (String × Json)) :
    ofMembers members = members.mapM memberOfJson := by
  induction members with
  | nil => rfl
  | cons entry rest ih =>
    obtain ⟨name, value⟩ := entry
    rw [ofMembers, List.mapM_cons, memberOfJson, ih]
    cases Param.ofJson name value <;> rfl

/-- The members of an object are read one by one, in the order of their names. -/
theorem ofJson_object (members : List (String × Json)) :
    ofJson (.object members) = (members.mapM memberOfJson).map Keyed.ofList := by
  rw [ofJson, ofMembers_eq_mapM]

theorem ofJson_alone (entry : String × Json) :
    ofJson (.object [entry]) = (memberOfJson entry).map ([·]) := by
  rw [ofJson_object, List.mapM_cons]
  cases memberOfJson entry <;> rfl

/-- What is read of a member stands under its name and is plain. -/
theorem member_of_read {entry : String × Json} {given : String × Param}
    (read : memberOfJson entry = .ok given) : given.1 = entry.1 ∧ given.2.IsPlain := by
  obtain ⟨param, made, rfl⟩ := Outcome.ok_of_map read
  exact ⟨rfl, Param.read_isPlain made⟩

/-- Parameters that were read are sorted, whatever they were read from. -/
theorem ofJson_isSorted {value : Json} (read : ofJson value = .ok params) : params.IsSorted := by
  cases value with
  | object members =>
    obtain ⟨entries, -, rfl⟩ := Outcome.ok_of_map read
    exact Keyed.isSorted_ofList entries
  | _ => cases read

/-- Names are kept, so what is read for sorted members is sorted. -/
theorem isSorted_of_read (sorted : members.IsSorted)
    (each : List.Forall₂ (fun entry given => memberOfJson entry = .ok given) members params) :
    params.IsSorted := by
  have names : members.map (·.1) = params.map (·.1) := by
    rw [← List.forall₂_eq_eq_eq, List.forall₂_map_left_iff, List.forall₂_map_right_iff]
    exact each.imp fun entry given read => (member_of_read read).1.symm
  refine List.pairwise_map.mp ?_
  rw [← names]
  exact List.pairwise_map.mpr sorted

/-- For sorted members nothing is put in another order or replaced. -/
theorem ofJson_sorted (sorted : members.IsSorted) :
    ofJson (.object members) = members.mapM memberOfJson := by
  rw [ofJson_object]
  cases read : members.mapM memberOfJson with
  | error cause => rfl
  | ok params =>
    have kept := Keyed.ofList_of_isSorted (isSorted_of_read sorted (Outcome.ok_of_mapM read))
    exact congrArg Except.ok kept

/-- Plain parameters are read back from what they are written as. -/
theorem params_read_back (sorted : params.IsSorted) (plain : ∀ entry ∈ params, entry.2.IsPlain) :
    ofJson params.toJson = .ok params := by
  have written : Keyed.IsSorted (params.map fun entry => (entry.1, entry.2.toJson)) :=
    List.pairwise_map.mpr sorted
  rw [toJson, ofJson_sorted written]
  refine Outcome.mapM_of_each fun entry member => ?_
  rw [memberOfJson, Param.param_reads_back entry.1 (plain entry member)]
  rfl

/-! ## The first member that cannot be read -/

theorem read_alone {entry : String × Json} :
    (∃ alone, ofJson (.object [entry]) = .ok alone) ↔ ∃ given, memberOfJson entry = .ok given := by
  rw [ofJson_alone]
  cases memberOfJson entry <;> simp [Except.map]

/-- A member is refused by itself for the same reason as within an object of one. -/
theorem fails_alone {entry : String × Json} :
    ofJson (.object [entry]) = .error error ↔ memberOfJson entry = .error error := by
  rw [ofJson_alone]
  cases memberOfJson entry <;> simp [Except.map]

/-- Parameters are read exactly when each of their members is. -/
theorem ofJson_ok_iff : (∃ params, ofJson (.object members) = .ok params) ↔
    ∀ entry ∈ members, ∃ given, memberOfJson entry = .ok given := by
  rw [ofJson_object, ← Outcome.mapM_ok_iff]
  cases members.mapM memberOfJson <;> simp [Except.map]

/-- Whether a member cannot be read, and all others that cannot be read come after it. -/
def IsFirstFault (members : Keyed Json) (error : ParamError) (entry : String × Json) : Prop :=
  memberOfJson entry = .error error ∧ ∀ other ∈ members,
    (∃ cause, memberOfJson other = .error cause) → other = entry ∨ entry.1 < other.1

/-- Members are tried in the order of their names. -/
theorem first_fault_of_error (sorted : members.IsSorted)
    (failed : ofJson (.object members) = .error error) :
    ∃ entry ∈ members, IsFirstFault members error entry := by
  rw [ofJson_object] at failed
  obtain ⟨before, entry, after, rfl, passed, fails⟩ :=
    Outcome.error_of_mapM (Outcome.error_of_map failed)
  refine ⟨entry, by simp, fails, fun other member unreadable => ?_⟩
  obtain ⟨cause, refused⟩ := unreadable
  rcases List.mem_append.mp member with earlier | later
  · obtain ⟨given, read⟩ := passed other earlier
    rw [read] at refused
    cases refused
  · rcases List.mem_cons.mp later with same | behind
    · exact .inl same
    · obtain ⟨-, increase, -⟩ := List.pairwise_append.mp sorted
      exact .inr ((List.pairwise_cons.mp increase).1 other behind)

/-- Of several members that cannot be read the one with the least name decides. -/
theorem ofJson_error_iff (sorted : members.IsSorted) : ofJson (.object members) = .error error ↔
    ∃ entry ∈ members, IsFirstFault members error entry := by
  refine ⟨first_fault_of_error sorted, ?_⟩
  rintro ⟨entry, member, fails, first⟩
  cases outcome : ofJson (.object members) with
  | ok params =>
    obtain ⟨given, read⟩ := ofJson_ok_iff.mp ⟨params, outcome⟩ entry member
    rw [read] at fails
    cases fails
  | error cause =>
    -- the member that was reported and this one come before each other unless they are one
    obtain ⟨reported, among, refused, earliest⟩ := first_fault_of_error sorted outcome
    have same : reported = entry := by
      rcases first reported among ⟨cause, refused⟩ with same | after
      · exact same
      · rcases earliest entry member ⟨error, fails⟩ with same | before
        · exact same.symm
        · exact absurd after before.not_gt
    rw [← same, refused] at fails
    exact congrArg Except.error (Except.error.inj fails)

/-- Parameters are read back from what they are written as, and each member of an object decides by
itself what is read for it. An object with members that cannot be read is refused for the one of them
whose name comes first, byte by byte. -/
theorem reading_follows_members :
    (∀ params : Params, params.IsSorted → (∀ entry ∈ params, entry.2.IsPlain) →
      ofJson params.toJson = .ok params) ∧
    ∀ members : Keyed Json, members.IsSorted →
      ((∃ params, ofJson (.object members) = .ok params) ↔
        ∀ entry ∈ members, ∃ alone, ofJson (.object [entry]) = .ok alone) ∧
      (∀ params, ofJson (.object members) = .ok params → params.IsSorted ∧
        List.Forall₂ (fun entry given => given.1 = entry.1 ∧ given.2.IsPlain ∧
          ofJson (.object [entry]) = .ok [given]) members params) ∧
      ∀ error, ofJson (.object members) = .error error ↔
        ∃ entry ∈ members, ofJson (.object [entry]) = .error error ∧
          ∀ other ∈ members, (∃ cause, ofJson (.object [other]) = .error cause) →
            other = entry ∨ bytes entry.1 < bytes other.1 := by
  refine ⟨fun params sorted plain => params_read_back sorted plain, fun members sorted => ?_⟩
  refine ⟨?_, fun params read => ?_, fun error => ?_⟩
  · simp only [read_alone, ofJson_ok_iff]
  · refine ⟨ofJson_isSorted read, ?_⟩
    rw [ofJson_sorted sorted] at read
    refine (Outcome.ok_of_mapM read).imp fun entry given made => ?_
    obtain ⟨name, plain⟩ := member_of_read made
    exact ⟨name, plain, by rw [ofJson_alone, made]; rfl⟩
  · simp only [ofJson_error_iff sorted, IsFirstFault, fails_alone, lt_iff_bytes_lt]

/-- A filter without regard to case, a parameter without a value and a list with null in it. -/
def mixedParams : Params :=
  [ ("day", .fieldFilter ⟨.byName "created", .contains, [.text "a", .null], false⟩),
    ("none", .noValue), ("part", .list [.null, .integer (-1), .boolean true]) ]

/-- Members of which two cannot be read: a list within a list, and a filter that names no field. -/
def faultyMembers : Keyed Json :=
  [("ok", .bool true), ("z", .array [.array []]), ("é", .object [])]

/-- These parameters are read back, and of the faulty members the one whose name has the smaller bytes
is reported. -/
theorem mixed_params_read_back_and_first_fault_is_reported :
    mixedParams.IsSorted ∧ (∀ entry ∈ mixedParams, entry.2.IsPlain) ∧
      ofJson mixedParams.toJson = .ok mixedParams ∧ faultyMembers.IsSorted ∧
        ofJson (.object faultyMembers) = .error (.invalid "z" .nested) := by
  have sorted : mixedParams.IsSorted := by decide
  have plain : ∀ entry ∈ mixedParams, entry.2.IsPlain := by
    simp [mixedParams, Param.IsPlain, Literal.IsScalar, Literal.IsNumber]
  have faultySorted : faultyMembers.IsSorted := by decide
  refine ⟨sorted, plain, reading_follows_members.1 mixedParams sorted plain, faultySorted, ?_⟩
  refine ((reading_follows_members.2 faultyMembers faultySorted).2.2 _).mpr
    ⟨("z", .array [.array []]), by simp [faultyMembers], rfl, ?_⟩
  intro other member unreadable
  simp only [faultyMembers, List.mem_cons, List.not_mem_nil, or_false] at member
  rcases member with rfl | rfl | rfl
  · obtain ⟨cause, refused⟩ := unreadable
    cases refused
  · exact .inl rfl
  · exact .inr (lt_iff_bytes_lt.mp (by decide))

end Params

end ColumnQuery
