import ColumnQuery.Decimal.Layout

/-! The characters that numbers are written with. A number is digits, points, signs and exponent
marks, and it begins with a digit that only a sign may precede. -/
namespace ColumnQuery.Decimal

/-- The characters of a number. -/
def isNumberChar (c : Char) : Bool :=
  c.isDigit || c == '.' || c == 'e' || c == '-'

/-- Whether a number begins with this character before these others. -/
def startsNumber (first : Char) (rest : List Char) : Bool :=
  first.isDigit || first == '-' && rest.head?.any Char.isDigit

/-- The text of a number without a sign. -/
structure IsUnsigned (text : List Char) : Prop where
  first_digit : text.head?.any Char.isDigit = true
  spelled : ∀ c ∈ text, isNumberChar c = true

/-- The text of a number, which may have a sign. -/
def IsNumber (text : List Char) : Prop :=
  IsUnsigned text ∨ ∃ unsigned, text = '-' :: unsigned ∧ IsUnsigned unsigned

theorem digit_is_number_char {c : Char} (digit : c.isDigit = true) : isNumberChar c = true := by
  simp [isNumberChar, digit]

/-- Whatever else numbers are spelled with may follow a number. -/
theorem unsigned_append {text more : List Char} (unsigned : IsUnsigned text)
    (spelled : ∀ c ∈ more, isNumberChar c = true) : IsUnsigned (text ++ more) := by
  constructor
  · cases text with
    | nil => simpa using unsigned.first_digit
    | cons first rest => simpa using unsigned.first_digit
  · intro c member
    rcases List.mem_append.mp member with member | member
    · exact unsigned.spelled c member
    · exact spelled c member

theorem unsigned_digits {digits : List Char} (some_digit : digits ≠ [])
    (each : ∀ c ∈ digits, c.isDigit = true) : IsUnsigned digits := by
  constructor
  · cases digits with
    | nil => exact absurd rfl some_digit
    | cons first rest => simpa using each first (by simp)
  · exact fun c member => digit_is_number_char (each c member)

theorem nat_digits (n : Nat) : ∀ c ∈ (toString n).toList, c.isDigit = true := by
  intro c member
  rw [Nat.toString_eq_repr, Nat.toList_repr] at member
  exact Nat.isDigit_of_mem_toDigits (by decide) (by decide) member

theorem nat_digits_nonempty (n : Nat) : (toString n).toList ≠ [] := by
  rw [Nat.toString_eq_repr, Nat.toList_repr]
  exact Nat.toDigits_ne_nil

/-- The digits of a number have the number as their value. -/
theorem ofDigitChars_nat (n : Nat) : Nat.ofDigitChars 10 (toString n).toList 0 = n := by
  rw [Nat.toString_eq_repr, Nat.toList_repr]
  exact Nat.ofDigitChars_ten_toDigits

/-- The digits of a number tell the number. -/
theorem nat_digits_inj {m n : Nat} (same : (toString m).toList = (toString n).toList) : m = n := by
  have value := congrArg (Nat.ofDigitChars 10 · 0) same
  simpa only [ofDigitChars_nat] using value

theorem unsigned_nat (n : Nat) : IsUnsigned (toString n).toList :=
  unsigned_digits (nat_digits_nonempty n) (nat_digits n)

/-- An integer is written as a natural number is, with a sign before it when it is negative. -/
theorem int_text (n : Int) : ∃ m : Nat, n = m ∧ (toString n).toList = (toString m).toList ∨
    n = -m ∧ (toString n).toList = '-' :: (toString m).toList := by
  cases n with
  | ofNat n => exact ⟨n, .inl ⟨rfl, rfl⟩⟩
  | negSucc n =>
    refine ⟨n.succ, .inr ⟨rfl, ?_⟩⟩
    change ("-" ++ n.succ.repr).toList = _
    rw [String.toList_append, Nat.toString_eq_repr]
    rfl

/-- An integer is written as a number. -/
theorem number_int (n : Int) : IsNumber (toString n).toList := by
  obtain ⟨m, ⟨-, text⟩ | ⟨-, text⟩⟩ := int_text n
  · exact .inl (text ▸ unsigned_nat m)
  · exact .inr ⟨_, text, unsigned_nat m⟩

theorem number_spelled {text : List Char} (number : IsNumber text) :
    ∀ c ∈ text, isNumberChar c = true := by
  rcases number with unsigned | ⟨unsigned, rfl, spelled⟩
  · exact unsigned.spelled
  · intro c member
    rcases List.mem_cons.mp member with rfl | member
    · rfl
    · exact spelled.spelled c member

/-- A number begins like one, whatever follows it. -/
theorem number_starts {text : List Char} (number : IsNumber text) :
    ∃ first more, text = first :: more ∧ ∀ rest, startsNumber first (more ++ rest) = true := by
  rcases number with unsigned | ⟨unsigned, rfl, spelled⟩
  · cases text with
    | nil => cases unsigned.first_digit
    | cons first more =>
      have digit : first.isDigit = true := by simpa using unsigned.first_digit
      exact ⟨first, more, rfl, fun rest => by simp [startsNumber, digit]⟩
  · cases unsigned with
    | nil => cases spelled.first_digit
    | cons first more =>
      have digit : first.isDigit = true := by simpa using spelled.first_digit
      exact ⟨'-', first :: more, rfl, fun rest => by simp [startsNumber, digit]⟩

theorem zeros_eq (n : Int) : (zeros n).toList = List.replicate n.toNat '0' :=
  String.toList_ofList

theorem zeros_digits (n : Int) : ∀ c ∈ (zeros n).toList, c.isDigit = true := by
  intro c member
  rw [zeros_eq] at member
  rw [List.eq_of_mem_replicate member]
  rfl

theorem zeros_spelled (n : Int) : ∀ c ∈ (zeros n).toList, isNumberChar c = true :=
  fun c member => digit_is_number_char (zeros_digits n c member)

/-- Digits with a point among or behind them are a number without sign. -/
theorem positional_unsigned {layout : Layout} {digits : String} (some_digit : digits.toList ≠ [])
    (each : ∀ c ∈ digits.toList, c.isDigit = true)
    (whole : ∀ c ∈ layout.wholeMark.toList, isNumberChar c = true) (point : Int) :
    IsUnsigned (layout.positional digits point).toList := by
  have spelled : ∀ c ∈ digits.toList, isNumberChar c = true :=
    fun c member => digit_is_number_char (each c member)
  unfold Layout.positional
  split
  · simp only [String.toList_append]
    have point : IsUnsigned "0.".toList := ⟨rfl, List.all_eq_true.mp (by decide)⟩
    exact unsigned_append (unsigned_append point (zeros_spelled _)) spelled
  · rename_i positive
    split
    · simp only [String.toList_append]
      exact unsigned_append (unsigned_append (unsigned_digits some_digit each) (zeros_spelled _)) whole
    · simp only [String.toList_append, String.toList_ofList]
      have leading : IsUnsigned (digits.toList.take point.toNat) := by
        apply unsigned_digits
        · have : point.toNat ≠ 0 := by omega
          simpa [List.take_eq_nil_iff, this] using some_digit
        · exact fun c member => each c (List.mem_of_mem_take member)
      refine unsigned_append (unsigned_append leading (List.all_eq_true.mp (by decide))) ?_
      exact fun c member => spelled c (List.mem_of_mem_drop member)

/-- Digits with an exponent are a number without sign. -/
theorem scientific_unsigned {layout : Layout} {digits : String} (some_digit : digits.toList ≠ [])
    (each : ∀ c ∈ digits.toList, c.isDigit = true)
    (mark : ∀ c ∈ layout.exponentMark.toList, isNumberChar c = true) (point : Int) :
    IsUnsigned (layout.scientific digits point).toList := by
  have exponent : ∀ c ∈ ("e" ++ (if 1 < point then layout.exponentMark else "") ++
      toString (point - 1)).toList, isNumberChar c = true := by
    intro c member
    simp only [String.toList_append, List.mem_append] at member
    rcases member with (member | member) | member
    · exact List.all_eq_true.mp (by decide) c member
    · split at member
      · exact mark c member
      · cases member
    · exact number_spelled (number_int _) c member
  unfold Layout.scientific
  simp only
  split
  · rename_i first next rest shape
    rw [String.toList_append, String.toList_ofList]
    refine unsigned_append ⟨?_, ?_⟩ exponent
    · simpa using each first (by simp [shape])
    · intro c member
      rcases List.mem_cons.mp member with rfl | member
      · exact digit_is_number_char (each _ (by simp [shape]))
      · rcases List.mem_cons.mp member with rfl | member
        · rfl
        · exact digit_is_number_char (each c (shape ▸ List.mem_cons_of_mem first member))
  · rw [String.toList_append]
    exact unsigned_append (unsigned_digits some_digit each) exponent

/-- A double in a statement is the digits of its shortest decimal, laid out in one of the two ways,
behind a sign when it is negative. -/
theorem compact_text (x : Binary64) : ∃ (n : Nat) (point : Int) (magnitude : String),
    (magnitude = compact.positional (toString n) point ∨
      magnitude = compact.scientific (toString n) point) ∧
      (compact.text x = if x.negative then "-" ++ magnitude else magnitude) ∧
      shortest .even x = ⟨n, point - (toString n).length⟩ := by
  let decimal := shortest .even x
  let point : Int := (toString decimal.digits).length + decimal.exponent
  refine ⟨decimal.digits, point, if -5 < point && point ≤ 16 then
    compact.positional (toString decimal.digits) point
    else compact.scientific (toString decimal.digits) point, ?_, rfl, ?_⟩
  · split
    · exact .inl rfl
    · exact .inr rfl
  · change decimal = ⟨decimal.digits, _⟩
    have exponent : point - (toString decimal.digits).length = decimal.exponent := by omega
    rw [exponent]

theorem unsigned_magnitude {n : Nat} {point : Int} {magnitude : String}
    (laid : magnitude = compact.positional (toString n) point ∨
      magnitude = compact.scientific (toString n) point) : IsUnsigned magnitude.toList := by
  rcases laid with rfl | rfl
  · exact positional_unsigned (nat_digits_nonempty n) (nat_digits n) (List.all_eq_true.mp rfl) point
  · exact scientific_unsigned (nat_digits_nonempty n) (nat_digits n) (List.all_eq_true.mp rfl) point

/-- A finite double is written as a number. -/
theorem number_compact (x : Binary64) : IsNumber (compact.text x).toList := by
  obtain ⟨n, point, magnitude, laid, written, -⟩ := compact_text x
  have unsigned := unsigned_magnitude laid
  rw [written]
  split
  · rw [String.toList_append]
    exact .inr ⟨_, rfl, unsigned⟩
  · exact .inl unsigned

end ColumnQuery.Decimal
