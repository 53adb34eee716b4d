import ColumnQuery.Proofs.FieldNames
import Mathlib.Data.Set.Card

/-! The names of columns over a whole run of uses, of which some may fail. The store may answer the same
lookup in another way each time, so what a name is depends on when it was asked for. It is the first
name that the store gave, it is kept from there on, and the store is not asked for it again. -/
namespace ColumnQuery

/-- The first name that was given to an id by the answers to these lookups, which were made after others. -/
def Metadata.firstAnswer (metadata : Metadata) (earlier : List Lookup) :
    List Lookup → Int64 → Option String
  | [], _ => none
  | lookup :: rest, id =>
    if lookup = .field id then
      match metadata earlier lookup with
      | .ok name => some name
      | .error _ => firstAnswer metadata (earlier ++ [lookup]) rest id
    else firstAnswer metadata (earlier ++ [lookup]) rest id

/-- One more lookup counts if it is one of the id, is answered, and none was answered before. -/
theorem Metadata.firstAnswer_concat (metadata : Metadata) (earlier made : List Lookup)
    (lookup : Lookup) (id : Int64) : metadata.firstAnswer earlier (made ++ [lookup]) id =
      (metadata.firstAnswer earlier made id).or
        (if lookup = .field id then (metadata (earlier ++ made) lookup).toOption else none) := by
  induction made generalizing earlier with
  | nil =>
    rw [List.nil_append, List.append_nil, firstAnswer, firstAnswer, Option.none_or, firstAnswer]
    by_cases same : lookup = .field id
    · rw [if_pos same, if_pos same]
      cases metadata earlier lookup <;> rfl
    · rw [if_neg same, if_neg same]
  | cons first rest ih =>
    have shift : earlier ++ first :: rest = earlier ++ [first] ++ rest := by simp
    rw [List.cons_append, firstAnswer, firstAnswer, ih, shift]
    by_cases same : first = .field id
    · rw [if_pos same, if_pos same]
      cases metadata earlier first <;> rfl
    · rw [if_neg same, if_neg same]

namespace FieldNames

/-- One use of the names: making sure of a column, or taking its name by itself or as an identifier. -/
inductive Use
  | ensure (field : FieldRef)
  | name (field : FieldRef)
  | identifier (field : FieldRef)
deriving DecidableEq

/-- What a use answers. -/
inductive Answer
  | ensured (outcome : Except LookupError Unit)
  | named (outcome : Except LookupError String)
  | identified (outcome : Except LookupError Sql.Phrase)

/-- Whether a use succeeded. -/
def Answer.isOk : Answer → Bool
  | .ensured outcome => outcome.isOk
  | .named outcome => outcome.isOk
  | .identified outcome => outcome.isOk

/-- The names found and the lookups made up to a point of a run. -/
structure Session where
  names : FieldNames
  lookups : List Lookup

namespace Session

/-- What a use answers at this point. -/
def answer (metadata : Metadata) (now : Session) : Use → Answer
  | .ensure field => .ensured ((now.names.ensure field metadata now.lookups).result.map fun _ => ())
  | .name field => .named (now.names.nameOf field)
  | .identifier field => .identified (now.names.identifier field)

/-- The point after a use. Names are only ever replaced by those that a success gives. -/
def after (metadata : Metadata) (now : Session) : Use → Session
  | .ensure field =>
    match now.names.ensure field metadata now.lookups with
    | ⟨.ok more, lookups⟩ => ⟨more, lookups⟩
    | ⟨.error _, lookups⟩ => ⟨now.names, lookups⟩
  | .name _ => now
  | .identifier _ => now

/-- The point after uses, whether they succeed or not. -/
def run (metadata : Metadata) (start : Session) (uses : List Use) : Session :=
  uses.foldl (after metadata) start

/-- What one use does. -/
inductive Steps (metadata : Metadata) (now : Session) : Use → Answer → Session → Prop
  | ownName (name : String) : Steps metadata now (.ensure (.byName name)) (.ensured (.ok ())) now
  | known {id : Int64} {name : String} (held : now.names.find? id = some name) :
      Steps metadata now (.ensure (.byId id)) (.ensured (.ok ())) now
  | answered {id : Int64} {name : String} (absent : now.names.find? id = none)
      (given : metadata now.lookups (.field id) = .ok name) :
      Steps metadata now (.ensure (.byId id)) (.ensured (.ok ()))
        ⟨now.names.add id name, now.lookups ++ [.field id]⟩
  | refused {id : Int64} {cause : LookupError} (absent : now.names.find? id = none)
      (failed : metadata now.lookups (.field id) = .error cause) :
      Steps metadata now (.ensure (.byId id)) (.ensured (.error cause))
        ⟨now.names, now.lookups ++ [.field id]⟩
  | named (field : FieldRef) :
      Steps metadata now (.name field) (.named (now.names.nameOf field)) now
  | identified (field : FieldRef) :
      Steps metadata now (.identifier field) (.identified (now.names.identifier field)) now

/-- Every use of the names is one of the steps. -/
theorem steps (metadata : Metadata) (now : Session) (use : Use) :
    Steps metadata now use (now.answer metadata use) (now.after metadata use) := by
  cases use with
  | name field => exact .named field
  | identifier field => exact .identified field
  | ensure field =>
    rw [answer, after]
    cases field with
    | byName name => exact .ownName name
    | byId id =>
      cases held : now.names.find? id with
      | some name =>
        rw [ensure_known held]
        exact .known held
      | none =>
        rw [ensure_new held]
        cases given : metadata now.lookups (.field id) with
        | ok name => exact .answered held given
        | error cause => exact .refused held given

theorem run_cons (metadata : Metadata) (start : Session) (use : Use) (rest : List Use) :
    start.run metadata (use :: rest) = (start.after metadata use).run metadata rest :=
  rfl

variable {metadata : Metadata} {earlier made : List Lookup} {start now : Session} {id : Int64}

/-! ## Names and the lookups they come from -/

theorem find?_eq_none_iff {names : FieldNames} :
    names.find? id = none ↔ id ∉ names.entries.map Prod.fst := by
  rw [find?, List.lookup_eq_none_iff, List.mem_map]
  constructor
  · rintro others ⟨entry, member, rfl⟩
    simpa using others entry member
  · intro absent entry member
    simpa using fun same : id = entry.1 => absent ⟨entry, member, same.symm⟩

/-- The names are the first answers among the lookups made, and each id is there once. -/
structure Follows (metadata : Metadata) (earlier made : List Lookup) (now : Session) : Prop where
  lookups : now.lookups = earlier ++ made
  found : ∀ id, now.names.find? id = metadata.firstAnswer earlier made id
  distinct : (now.names.entries.map Prod.fst).Nodup

/-- A lookup that adds a name adds the first answer for its id. -/
theorem Follows.answered {name : String} (follows : Follows metadata earlier made now)
    (absent : now.names.find? id = none) (given : metadata now.lookups (.field id) = .ok name) :
    Follows metadata earlier (made ++ [.field id])
      ⟨now.names.add id name, now.lookups ++ [.field id]⟩ where
  lookups := by rw [follows.lookups, List.append_assoc]
  found other := by
    rw [find?_add, follows.found, Metadata.firstAnswer_concat, ← follows.lookups, given]
    by_cases same : other = id
    · simp [same, Except.toOption]
    · simp [same, Ne.symm same]
  distinct := by
    have new := find?_eq_none_iff.mp absent
    rw [add, List.map_append, List.map_singleton, ← List.concat_eq_append]
    exact List.Nodup.concat new follows.distinct

/-- A lookup that fails changes no first answer. -/
theorem Follows.refused {cause : LookupError} (follows : Follows metadata earlier made now)
    (failed : metadata now.lookups (.field id) = .error cause) :
    Follows metadata earlier (made ++ [.field id]) ⟨now.names, now.lookups ++ [.field id]⟩ where
  lookups := by rw [follows.lookups, List.append_assoc]
  found other := by
    rw [follows.found, Metadata.firstAnswer_concat, ← follows.lookups, failed]
    simp [Except.toOption]
  distinct := follows.distinct

/-- One use extends the history by the lookups that it makes. -/
theorem Follows.after (follows : Follows metadata earlier made now) (use : Use) :
    ∃ more, Follows metadata earlier (made ++ more) (now.after metadata use) := by
  have unchanged : ∃ more, Follows metadata earlier (made ++ more) now :=
    ⟨[], by rwa [List.append_nil]⟩
  -- the cases of the step then say what the next point is
  have step := steps metadata now use
  generalize now.answer metadata use = given at step
  generalize now.after metadata use = next at step ⊢
  cases step with
  | ownName | known | named | identified => exact unchanged
  | answered absent given => exact ⟨_, follows.answered absent given⟩
  | refused absent failed => exact ⟨_, follows.refused failed⟩

/-- A run of uses extends the history step by step. -/
theorem Follows.run (follows : Follows metadata earlier made now) (uses : List Use) :
    ∃ more, Follows metadata earlier (made ++ more) (now.run metadata uses) := by
  induction uses generalizing now made with
  | nil => exact ⟨[], by rwa [List.append_nil]⟩
  | cons use rest ih =>
    obtain ⟨first, follows⟩ := follows.after use
    obtain ⟨more, follows⟩ := ih follows
    exact ⟨first ++ more, by rwa [← List.append_assoc]⟩

/-! ## Where a run starts -/

/-- A run starts with no names, or with those that were found for a list of columns. Whatever was looked
up before, by whoever it was, may matter to the store. -/
inductive Begins (metadata : Metadata) (earlier : List Lookup) : Session → Prop
  | empty : Begins metadata earlier ⟨{}, earlier⟩
  | resolved {fields : List FieldRef} {names : FieldNames} {later : List Lookup}
      (ended : resolve fields metadata earlier = ⟨.ok names, later⟩) :
      Begins metadata earlier ⟨names, later⟩

theorem follows_empty (metadata : Metadata) (earlier : List Lookup) :
    Follows metadata earlier [] ⟨{}, earlier⟩ :=
  ⟨(List.append_nil earlier).symm, fun _ => rfl, List.nodup_nil⟩

/-- Making sure of several columns at once is a run of its own. -/
theorem run_of_ensureAll {fields : List FieldRef} {names : FieldNames} {later : List Lookup}
    (ended : now.names.ensureAll fields metadata now.lookups = ⟨.ok names, later⟩) :
    now.run metadata (fields.map .ensure) = ⟨names, later⟩ := by
  induction fields generalizing now with
  | nil =>
    cases ended
    rfl
  | cons field rest ih =>
    rw [ensureAll] at ended
    obtain ⟨found, between, first, goesOn⟩ := Asking.ok_of_bind ended
    have next : now.after metadata (.ensure field) = ⟨found, between⟩ := by rw [Session.after, first]
    rw [List.map_cons, run_cons, next]
    exact ih goesOn

theorem Begins.follows (begins : Begins metadata earlier start) :
    ∃ made, Follows metadata earlier made start := by
  cases begins with
  | empty => exact ⟨[], follows_empty metadata earlier⟩
  | @resolved fields names later ended =>
    have ran : run metadata ⟨{}, earlier⟩ (fields.map .ensure) = ⟨names, later⟩ :=
      run_of_ensureAll ended
    obtain ⟨made, follows⟩ := (follows_empty metadata earlier).run (fields.map .ensure)
    rw [ran] at follows
    exact ⟨_, follows⟩

/-! ## What is known and what is not -/

theorem ne_of_known {names : FieldNames} {other : Int64} {name : String}
    (held : names.find? id = some name) (absent : names.find? other = none) : id ≠ other := by
  rintro rfl
  rw [held] at absent
  cases absent

/-- The name of an id stays as it is, and the store is not asked for it. -/
theorem after_known (metadata : Metadata) {name : String} (held : now.names.find? id = some name)
    (use : Use) : (now.after metadata use).names.find? id = some name ∧
      ∃ asked, (now.after metadata use).lookups = now.lookups ++ asked ∧ .field id ∉ asked := by
  have unchanged : now.names.find? id = some name ∧
      ∃ asked, now.lookups = now.lookups ++ asked ∧ .field id ∉ asked :=
    ⟨held, [], (List.append_nil _).symm, List.not_mem_nil⟩
  have step := steps metadata now use
  generalize now.answer metadata use = given at step
  generalize now.after metadata use = next at step ⊢
  cases step with
  | ownName | known | named | identified => exact unchanged
  | @answered other found absent given =>
    exact ⟨kept_add now.names other found id name held, [.field other], rfl,
      by simpa using ne_of_known held absent⟩
  | @refused other cause absent failed =>
    exact ⟨held, [.field other], rfl, by simpa using ne_of_known held absent⟩

/-- A name stays through every run, and its id is not looked up again. -/
theorem run_known (metadata : Metadata) {name : String} (held : now.names.find? id = some name)
    (uses : List Use) : (now.run metadata uses).names.find? id = some name ∧
      ∃ asked, (now.run metadata uses).lookups = now.lookups ++ asked ∧ .field id ∉ asked := by
  induction uses generalizing now with
  | nil => exact ⟨held, [], (List.append_nil _).symm, List.not_mem_nil⟩
  | cons use rest ih =>
    obtain ⟨kept, first, made, notFirst⟩ := after_known metadata held use
    obtain ⟨keptOn, others, madeOn, notOthers⟩ := ih kept
    rw [run_cons]
    refine ⟨keptOn, first ++ others, ?_, ?_⟩
    · rw [madeOn, made, List.append_assoc]
    · exact fun member => (List.mem_append.mp member).elim notFirst notOthers

/-- An id becomes known when making sure of it succeeds, and in no other way. -/
theorem after_knows_iff (use : Use) : (now.after metadata use).names.find? id ≠ none ↔
    now.names.find? id ≠ none ∨
      use = .ensure (.byId id) ∧ (now.answer metadata use).isOk = true := by
  have step := steps metadata now use
  generalize now.answer metadata use = given at step
  generalize now.after metadata use = next at step ⊢
  cases step with
  | ownName => simp
  | named => simp
  | identified => simp
  | @known other name held =>
    constructor
    · exact .inl
    · rintro (known | ⟨same, -⟩)
      · exact known
      · cases same
        simp [held]
  | @answered other name absent given =>
    rw [find?_add]
    by_cases same : id = other
    · subst same
      simp [absent, Answer.isOk, Except.isOk, Except.toBool]
    · simp [same, Ne.symm same]
  | @refused other cause absent failed =>
    simp [Answer.isOk, Except.isOk, Except.toBool]

theorem run_unknown (absent : now.names.find? id = none) {uses : List Use}
    (others : .ensure (.byId id) ∉ uses) : (now.run metadata uses).names.find? id = none := by
  induction uses generalizing now with
  | nil => exact absent
  | cons use rest ih =>
    rw [run_cons]
    apply ih
    · by_contra known
      rcases (after_knows_iff use).mp known with before | ⟨rfl, -⟩
      · exact before absent
      · exact others List.mem_cons_self
    · exact fun member => others (List.mem_cons_of_mem use member)

/-- The id was known when the run started, or making sure of it succeeded since. -/
def Resolved (metadata : Metadata) (start : Session) (uses : List Use) (id : Int64) : Prop :=
  start.names.find? id ≠ none ∨ ∃ before after, uses = before ++ .ensure (.byId id) :: after ∧
    ((start.run metadata before).answer metadata (.ensure (.byId id))).isOk = true

/-- After a run exactly the ids that were resolved have names. -/
theorem run_knows_iff (uses : List Use) :
    (now.run metadata uses).names.find? id ≠ none ↔ Resolved metadata now uses id := by
  induction uses generalizing now with
  | nil => simp [Resolved, run]
  | cons use rest ih =>
    rw [run_cons, ih, Resolved, after_knows_iff, Resolved]
    constructor
    · rintro ((known | ⟨rfl, succeeds⟩) | ⟨before, after, rfl, succeeds⟩)
      · exact .inl known
      · exact .inr ⟨[], rest, rfl, succeeds⟩
      · exact .inr ⟨use :: before, after, rfl, succeeds⟩
    · rintro (known | ⟨before, after, split, succeeds⟩)
      · exact .inl (.inl known)
      · cases before with
        | nil =>
          cases split
          exact .inl (.inr ⟨rfl, succeeds⟩)
        | cons first before =>
          cases split
          exact .inr ⟨before, after, rfl, succeeds⟩

/-- There is one name for each id that has one. -/
theorem Follows.size_eq (follows : Follows metadata earlier made now) :
    now.names.size = {id | now.names.find? id ≠ none}.ncard := by
  have ids : {id | now.names.find? id ≠ none} =
      ((now.names.entries.map Prod.fst).toFinset : Set Int64) := by
    ext id
    rw [Set.mem_ofPred_eq, List.coe_toFinset, Set.mem_ofPred_eq, Ne, find?_eq_none_iff, not_not]
  rw [ids, Set.ncard_coe_finset, List.toFinset_card_of_nodup follows.distinct, List.length_map, size]

theorem Follows.nameOf_eq (follows : Follows metadata earlier made now) (id : Int64) :
    now.names.nameOf (.byId id) =
      match metadata.firstAnswer earlier made id with
      | some name => .ok name
      | none => .error (.fieldNotFound id) := by
  cases given : metadata.firstAnswer earlier made id <;> simp [nameOf, follows.found, given]

theorem find?_of_nameOf {names : FieldNames} {name : String}
    (named : names.nameOf (.byId id) = .ok name) : names.find? id = some name := by
  rw [nameOf] at named
  cases held : names.find? id with
  | none => simp [held] at named
  | some other => simpa [held] using named

theorem nameOf_of_find? {names : FieldNames} {name : String}
    (held : names.find? id = some name) : names.nameOf (.byId id) = .ok name := by
  rw [nameOf, held]

/-- Taking a name succeeds when the id is known, in both forms. -/
theorem name_succeeds_iff : (now.answer metadata (.name (.byId id))).isOk = true ↔
    now.names.find? id ≠ none := by
  rw [answer, nameOf]
  cases now.names.find? id <;> simp [Answer.isOk, Except.isOk, Except.toBool]

theorem identifier_succeeds_iff : (now.answer metadata (.identifier (.byId id))).isOk = true ↔
    now.names.find? id ≠ none := by
  rw [answer, identifier, nameOf]
  cases now.names.find? id <;> simp [Answer.isOk, Except.isOk, Except.toBool, Except.map]

/-- Making sure of a column fails only for an id without a name, with the error of the store. -/
theorem refused_of_error {field : FieldRef} {cause : LookupError}
    (failed : now.answer metadata (.ensure field) = .ensured (.error cause)) :
    ∃ id, field = .byId id ∧ now.names.find? id = none ∧
      metadata now.lookups (.field id) = .error cause ∧
      now.after metadata (.ensure field) = ⟨now.names, now.lookups ++ [.field id]⟩ := by
  have step := steps metadata now (.ensure field)
  rw [failed] at step
  generalize now.after metadata (.ensure field) = next at step ⊢
  cases step with
  | refused absent refused => exact ⟨_, rfl, absent, refused, rfl⟩

/-- An id without a name is looked up each time. -/
theorem ensure_asks (absent : now.names.find? id = none) :
    (now.after metadata (.ensure (.byId id))).lookups = now.lookups ++ [.field id] := by
  rw [after, ensure_new absent]
  cases metadata now.lookups (.field id) <;> rfl

/-- What holds after a run of uses, each of which may fail, over a store, whatever it answers and when:
- the name of an id is the first answer among the lookups made for it;
- an id with a name keeps it, and is not looked up again;
- making sure of a column fails with the error of the store, leaves the names as they are, and the next
  time the id is looked up again;
- taking a name looks nothing up and changes nothing, and succeeds exactly for the ids that were resolved;
- a column with a name of its own is never looked up;
- there are as many names as ids that were resolved. -/
structure KeepsFirst (metadata : Metadata) (earlier : List Lookup) (start : Session) (uses : List Use)
    (now : Session) : Prop where
  named : ∃ made, now.lookups = earlier ++ made ∧ ∀ id, now.names.nameOf (.byId id) =
    match metadata.firstAnswer earlier made id with
    | some name => .ok name
    | none => .error (.fieldNotFound id)
  kept : ∀ id name, now.names.nameOf (.byId id) = .ok name → ∀ more,
    (now.run metadata more).names.nameOf (.byId id) = .ok name ∧
      ∃ asked, (now.run metadata more).lookups = now.lookups ++ asked ∧ .field id ∉ asked
  refused : ∀ field cause, now.answer metadata (.ensure field) = .ensured (.error cause) →
    ∃ id, field = .byId id ∧ metadata now.lookups (.field id) = .error cause ∧
      now.after metadata (.ensure field) = ⟨now.names, now.lookups ++ [.field id]⟩ ∧
      ∀ between, .ensure field ∉ between →
        let later := (now.after metadata (.ensure field)).run metadata between
        (later.after metadata (.ensure field)).lookups = later.lookups ++ [.field id]
  unchanged : ∀ field,
    now.after metadata (.name field) = now ∧ now.after metadata (.identifier field) = now
  taken : ∀ id,
    ((now.answer metadata (.name (.byId id))).isOk = true ↔ Resolved metadata start uses id) ∧
      ((now.answer metadata (.identifier (.byId id))).isOk = true ↔ Resolved metadata start uses id)
  ownName : ∀ name, now.after metadata (.ensure (.byName name)) = now ∧
    now.answer metadata (.ensure (.byName name)) = .ensured (.ok ()) ∧
    now.names.nameOf (.byName name) = .ok name
  counted : now.names.size = {id | Resolved metadata start uses id}.ncard

/-- The first answers are kept over every run that begins with names that were answered. -/
theorem first_answers_are_kept (begins : Begins metadata earlier start) (uses : List Use) :
    KeepsFirst metadata earlier start uses (start.run metadata uses) := by
  obtain ⟨began, follows⟩ := begins.follows
  obtain ⟨made, follows⟩ := follows.run uses
  exact
    { named := ⟨_, follows.lookups, follows.nameOf_eq⟩
      kept := by
        intro id name named more
        obtain ⟨kept, unasked⟩ := run_known metadata (find?_of_nameOf named) more
        exact ⟨nameOf_of_find? kept, unasked⟩
      refused := by
        intro field cause failed
        obtain ⟨id, rfl, absent, refused, next⟩ := refused_of_error failed
        refine ⟨id, rfl, refused, next, fun between others => ?_⟩
        apply ensure_asks
        apply run_unknown _ others
        rw [next]
        exact absent
      unchanged := fun _ => ⟨rfl, rfl⟩
      taken := by
        intro id
        rw [name_succeeds_iff, identifier_succeeds_iff, run_knows_iff]
        exact ⟨Iff.rfl, Iff.rfl⟩
      ownName := fun _ => ⟨rfl, rfl, rfl⟩
      counted := by
        rw [follows.size_eq]
        simp only [run_knows_iff] }

/-- A store that fails at first, and whose names tell how many lookups were made before. -/
def hesitant : Metadata := fun earlier _ =>
  if earlier.length < 2 then .error (.failed "busy") else .ok (toString earlier.length)

/-- A run that goes on after two failures. The third lookup is answered, and there is no fourth. -/
theorem hesitant_store_is_asked_until_it_answers :
    let uses : List Use := [.ensure (.byId 7), .name (.byId 7), .ensure (.byId 7), .ensure (.byId 7)]
    let now := run hesitant ⟨{}, []⟩ uses
    Begins hesitant [] ⟨{}, []⟩ ∧ now.lookups = [.field 7, .field 7, .field 7] ∧
      now.names.nameOf (.byId 7) = .ok "2" ∧ ∀ more, (now.run hesitant more).names.nameOf (.byId 7) = .ok "2" := by
  intro uses now
  have begins : Begins hesitant [] ⟨{}, []⟩ := .empty
  have named : now.names.nameOf (.byId 7) = .ok "2" := by decide
  refine ⟨begins, by decide, named, fun more => ?_⟩
  obtain ⟨kept, -⟩ := (first_answers_are_kept begins uses).kept 7 "2" named more
  exact kept

end Session

end FieldNames

end ColumnQuery
