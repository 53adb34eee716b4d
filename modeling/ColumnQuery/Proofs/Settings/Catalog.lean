import ColumnQuery.Proofs.Outcome
import ColumnQuery.Proofs.Text.Strip
import ColumnQuery.Settings

/-! Catalogs from settings. A key spells an id, a name refers to variables, and the entries of a table are
entered in the order in which they are visited, which is nowhere fixed. The rules here say what comes of each
entry and of all of them, with the messages for what goes wrong, and allow exactly the catalogs that are made.
The order matters only to the fault that is reported and to names for one id: where there is neither, every
order gives a catalog with the same answers. -/
namespace ColumnQuery
open Text

namespace Settings

/-! ## Ids -/

/-- What may stand in front of the digits of an integer, and what the number is multiplied with for it. -/
inductive Sign : List Char → Int → Prop
  | none : Sign [] 1
  | plus : Sign ['+'] 1
  | minus : Sign ['-'] (-1)

/-- The digits of a decimal number. -/
def AreDigits (digits : List Char) : Prop :=
  digits ≠ [] ∧ ∀ c ∈ digits, c.isDigit = true

/-- A text spells a word: digits, maybe behind a sign, of a number that the word holds. -/
inductive SpellsWord : List Char → Int64 → Prop
  | signed {sign digits : List Char} {factor : Int} {word : Int64} (signed : Sign sign factor)
      (decimal : AreDigits digits) (value : word.toInt = factor * Nat.ofDigitChars 10 digits 0) :
      SpellsWord (sign ++ digits) word

/-- A key spells an id, which is a word with any blanks around it. -/
inductive SpellsId (key : String) (id : Int64) : Prop
  | between {before spelled after : List Char} (whole : key.toList = before ++ spelled ++ after)
      (blankBefore : ∀ c ∈ before, isBlank c = true) (word : SpellsWord spelled id)
      (blankAfter : ∀ c ∈ after, isBlank c = true)

theorem word_iff {value : Int} {word : Int64} :
    (if -0x8000000000000000 ≤ value ∧ value < 0x8000000000000000 then some (Int64.ofInt value)
      else none) = some word ↔ word.toInt = value := by
  rw [Option.ite_none_right_eq_some]
  constructor
  · rintro ⟨⟨low, high⟩, same⟩
    rw [← Option.some.inj same]
    exact Int64.toInt_ofInt_of_le low high
  · rintro rfl
    exact ⟨⟨word.le_toInt, word.toInt_lt⟩, congrArg some word.ofInt_toInt⟩

section Words

variable {sign digits : List Char} {factor : Int} {word : Int64}

theorem signedWord?_eq (signed : Sign sign factor)
    (plain : sign = [] → ∀ c ∈ digits.head?, c ≠ '-' ∧ c ≠ '+') :
    signedWord? (sign ++ digits) =
      if digits.isEmpty ∨ digits.any (!·.isDigit) then none
      else
        let value := factor * Json.decimalNumber digits
        if -0x8000000000000000 ≤ value ∧ value < 0x8000000000000000 then some (Int64.ofInt value)
        else none := by
  cases signed with
  | none =>
    cases digits with
    | nil => rfl
    | cons first rest =>
      obtain ⟨noMinus, noPlus⟩ := plain rfl first rfl
      simp [signedWord?, noMinus, noPlus]
  | plus => simp [signedWord?]
  | minus => simp [signedWord?]

/-- Behind a sign a word is read exactly when there are digits and nothing else, of a number in range. -/
theorem signedWord?_sign_iff (signed : Sign sign factor)
    (plain : sign = [] → ∀ c ∈ digits.head?, c ≠ '-' ∧ c ≠ '+') :
    signedWord? (sign ++ digits) = some word ↔
      AreDigits digits ∧ word.toInt = factor * Nat.ofDigitChars 10 digits 0 := by
  rw [signedWord?_eq signed plain, Option.ite_none_left_eq_some, word_iff]
  simp [AreDigits, Json.decimalNumber, Nat.ofDigitChars, Json.digitValue]

/-- Every text splits into a sign and what stands behind it, which goes on without another one where
there is no sign. -/
theorem sign_splits (cs : List Char) : ∃ sign factor digits, cs = sign ++ digits ∧ Sign sign factor ∧
    (sign = [] → ∀ c ∈ digits.head?, c ≠ '-' ∧ c ≠ '+') := by
  by_cases minus : cs.head? = some '-'
  · obtain ⟨rest, rfl⟩ := List.head?_eq_some_iff.mp minus
    exact ⟨_, _, rest, rfl, .minus, by simp⟩
  by_cases plus : cs.head? = some '+'
  · obtain ⟨rest, rfl⟩ := List.head?_eq_some_iff.mp plus
    exact ⟨_, _, rest, rfl, .plus, by simp⟩
  refine ⟨_, _, cs, rfl, .none, fun _ c first => ⟨?_, ?_⟩⟩
  · rintro rfl
    exact minus first
  · rintro rfl
    exact plus first

theorem digit_is_no_sign {c : Char} (digit : c.isDigit = true) : c ≠ '-' ∧ c ≠ '+' := by
  constructor <;> rintro rfl <;> cases digit

/-- A word is read exactly when it is spelled. -/
theorem signedWord?_iff {cs : List Char} : signedWord? cs = some word ↔ SpellsWord cs word := by
  constructor
  · intro found
    obtain ⟨sign, factor, digits, rfl, signed, plain⟩ := sign_splits cs
    obtain ⟨decimal, value⟩ := (signedWord?_sign_iff signed plain).mp found
    exact .signed signed decimal value
  · rintro ⟨signed, decimal, value⟩
    refine (signedWord?_sign_iff signed fun _ c first => ?_).mpr ⟨decimal, value⟩
    exact digit_is_no_sign (decimal.2 c (List.mem_of_mem_head? first))

/-- There are no blanks in what spells a word. -/
theorem spelled_is_bare {cs : List Char} (spells : SpellsWord cs word) : IsBare isBlank cs := by
  obtain ⟨signed, decimal, -⟩ := spells
  refine isBare_of_all (List.forall_mem_append.mpr ⟨fun c member => ?_, fun c member => ?_⟩)
  · cases signed with
    | none => cases member
    | plus =>
      obtain rfl := List.mem_singleton.mp member
      rfl
    | minus =>
      obtain rfl := List.mem_singleton.mp member
      rfl
  · obtain ⟨low, high⟩ : 0x30 ≤ c.toNat ∧ c.toNat ≤ 0x39 := by
      simpa [Char.isDigit, UInt32.le_iff_toNat_le] using decimal.2 c member
    exact visible_is_not_blank (by omega) (by omega)

end Words

/-- An id is read from a key exactly when the key spells it. -/
theorem id_iff {key : String} {id : Int64} : Settings.id key = .ok id ↔ SpellsId key id := by
  have word : Settings.id key = .ok id ↔ SpellsWord (strip isBlank key.toList) id := by
    rw [Settings.id, ← signedWord?_iff]
    cases signedWord? (strip isBlank key.toList) <;> simp
  rw [word]
  constructor
  · intro spells
    obtain ⟨before, after, whole, blankBefore, blankAfter⟩ := strip_splits isBlank key.toList
    exact .between whole blankBefore spells blankAfter
  · rintro ⟨whole, blankBefore, spells, blankAfter⟩
    rwa [whole, strip_surrounded blankBefore (spelled_is_bare spells) blankAfter]

section Entries

variable {env : Environment} (documentReason : String → String)

/-- Entering is adding what the entries come to, one after the other. -/
theorem enter_eq (add : Catalog → Int64 → String → Catalog) (listed : List (String × String))
    (catalog : Catalog) : enter add env listed catalog =
      (listed.mapM (entry env)).map fun entries =>
        entries.foldl (fun built entry => add built entry.1 entry.2) catalog := by
  induction listed generalizing catalog with
  | nil => rfl
  | cons first rest ih =>
    rw [enter, List.mapM_cons]
    cases entry env first with
    | error error => rfl
    | ok named =>
      change enter add env rest (add catalog named.1 named.2) = _
      rw [Outcome.bind_of_ok _ rfl, ih]
      cases rest.mapM (entry env) with
      | error error => rfl
      | ok entries => rfl

theorem tables_added (entries : List (Int64 × String)) (catalog : Catalog) :
    entries.foldl (fun built entry => built.addTable entry.1 entry.2) catalog =
      ⟨entries.reverse ++ catalog.tables, catalog.fields⟩ := by
  induction entries generalizing catalog with
  | nil => rfl
  | cons first rest ih =>
    rw [List.foldl_cons, ih]
    simp [Catalog.addTable]

theorem fields_added (entries : List (Int64 × String)) (catalog : Catalog) :
    entries.foldl (fun built entry => built.addField entry.1 entry.2) catalog =
      ⟨catalog.tables, entries.reverse ++ catalog.fields⟩ := by
  induction entries generalizing catalog with
  | nil => rfl
  | cons first rest ih =>
    rw [List.foldl_cons, ih]
    simp [Catalog.addField]

/-- A catalog is the names of tables and then those of columns, the last ones first. -/
theorem catalog_eq (settings : Settings) (tables fields : Visiting) :
    settings.catalog env tables fields =
      ((tables.visit settings.tables).mapM (entry env)).bind fun namedTables =>
        ((fields.visit settings.fields).mapM (entry env)).map fun namedFields =>
          ⟨namedTables.reverse, namedFields.reverse⟩ := by
  rw [Settings.catalog, enter_eq]
  cases (tables.visit settings.tables).mapM (entry env) with
  | error error => rfl
  | ok namedTables =>
    change enter .addField env _ _ = _
    simp [enter_eq, tables_added, fields_added, Except.bind]

end Entries

/-! ## Orders -/

/-- No two of the keys spell one id. -/
def SpellApart (entries : List (String × String)) : Prop :=
  entries.Pairwise fun entry other => ∀ id, SpellsId entry.1 id → ¬ SpellsId other.1 id

section Orders

variable {env : Environment}

/-- Where no id occurs twice the order of the names does not matter. -/
theorem lookup_perm {named others : List (Int64 × String)} (same : named.Perm others)
    (apart : (named.map Prod.fst).Nodup) (id : Int64) : named.lookup id = others.lookup id := by
  induction same with
  | nil => rfl
  | cons entry _ ih =>
    obtain ⟨other, name⟩ := entry
    rw [List.lookup_cons, List.lookup_cons, ih (List.nodup_cons.mp apart).2]
  | swap first second rest =>
    obtain ⟨first, name⟩ := first
    obtain ⟨second, rename⟩ := second
    rw [List.lookup_cons, List.lookup_cons, List.lookup_cons, List.lookup_cons]
    cases isFirst : id == first with
    | false => rfl
    | true =>
      cases isSecond : id == second with
      | false => rfl
      | true =>
        obtain rfl := (eq_of_beq isFirst).symm.trans (eq_of_beq isSecond)
        simp at apart
  | trans first _ ihFirst ihSecond =>
    exact (ihFirst apart).trans (ihSecond ((first.map Prod.fst).nodup_iff.mp apart))

theorem spells_of_entry {named : String × String} {entry : Int64 × String}
    (made : Settings.entry env named = .ok entry) : SpellsId named.1 entry.1 := by
  obtain ⟨id, read, made⟩ := Outcome.ok_of_bind made
  obtain ⟨name, -, made⟩ := Outcome.ok_of_bind made
  cases made
  exact id_iff.mp read

/-- Entries with keys that spell different ids come to the same names in every order. -/
theorem entered_in_any_order {entries others : List (String × String)} (same : entries.Perm others)
    (apart : SpellApart entries) {named : List (Int64 × String)}
    (made : entries.mapM (entry env) = .ok named) : ∃ renamed,
      others.mapM (entry env) = .ok renamed ∧
        ∀ id, renamed.reverse.lookup id = named.reverse.lookup id := by
  choose! value each using Outcome.mapM_ok_iff.mp ⟨named, made⟩
  obtain rfl : entries.map value = named :=
    Except.ok.inj ((Outcome.mapM_of_values each).symm.trans made)
  refine ⟨others.map value,
    Outcome.mapM_of_values fun input member => each input (same.mem_iff.mpr member), fun id => ?_⟩
  refine (lookup_perm ?_ ?_ id).symm
  · exact ((List.reverse_perm _).trans (same.map value)).trans (List.reverse_perm _).symm
  · rw [((List.reverse_perm _).map Prod.fst).nodup_iff, List.map_map, List.Nodup, List.pairwise_map]
    refine apart.imp_of_mem fun {input other} member otherMember different sameId => ?_
    have sameId : (value input).1 = (value other).1 := sameId
    refine different (value input).1 (spells_of_entry (each input member)) ?_
    rw [sameId]
    exact spells_of_entry (each other otherMember)

/-- Where the keys of tables and those of columns spell different ids, a catalog that is made in one order
is made in every order, and it answers in the same way. -/
theorem catalog_in_any_order {settings : Settings} {tables fields : Visiting} {catalog : Catalog}
    (made : settings.catalog env tables fields = .ok catalog)
    (tablesApart : SpellApart settings.tables) (fieldsApart : SpellApart settings.fields)
    (otherTables otherFields : Visiting) : ∃ other,
      settings.catalog env otherTables otherFields = .ok other ∧
        ∀ lookup, other.answer lookup = catalog.answer lookup := by
  rw [catalog_eq] at made
  obtain ⟨namedTables, tablesMade, made⟩ := Outcome.ok_of_bind made
  obtain ⟨namedFields, fieldsMade, rfl⟩ := Outcome.ok_of_map made
  -- Both orders visit all entries, and so does the order in which they are written.
  have again {entries : List (String × String)} (before after : Visiting) :
      (before.visit entries).Perm (after.visit entries) :=
    (before.all entries).trans (after.all entries).symm
  have apart {entries : List (String × String)} (apart : SpellApart entries) (order : Visiting) :
      SpellApart (order.visit entries) :=
    ((order.all entries).pairwise_iff fun different id spells other =>
      different id other spells).mpr apart
  obtain ⟨renamedTables, tablesMade, tablesFound⟩ :=
    entered_in_any_order (again tables otherTables) (apart tablesApart tables) tablesMade
  obtain ⟨renamedFields, fieldsMade, fieldsFound⟩ :=
    entered_in_any_order (again fields otherFields) (apart fieldsApart fields) fieldsMade
  refine ⟨⟨renamedTables.reverse, renamedFields.reverse⟩, ?_, fun lookup => ?_⟩
  · rw [catalog_eq, tablesMade, fieldsMade]
    rfl
  · cases lookup with
    | table id => simp only [Catalog.answer, tablesFound]
    | field id => simp only [Catalog.answer, fieldsFound]

end Orders

end Settings

end ColumnQuery
