import ColumnQuery.Proofs.Decimal.Rounding
import ColumnQuery.Proofs.Decimal.Spelling
import Mathlib.Data.List.TakeWhile

/-! The number that a decimal text stands for. It is read off the text alone: from its digits, from how
many of them stand behind the point, and from the exponent. However a shortest decimal is laid out, it
is read as itself, so that two doubles have one text only if they are one. -/
namespace ColumnQuery.Decimal

/-! ## Reading a decimal -/

/-- The digits of a text as one number, whatever stands between them. -/
def digitsOf (text : List Char) : Nat :=
  Nat.ofDigitChars 10 (text.filter Char.isDigit) 0

/-- How many characters stand behind the point. -/
def placesOf (text : List Char) : Nat :=
  (text.dropWhile (· != '.')).length - 1

/-- The integer that digits stand for, with or without a sign before them. -/
def integerOf : List Char → Int
  | '-' :: digits => -(digitsOf digits : Int)
  | digits => digitsOf digits

/-- The exponent, which is zero where none is written. -/
def exponentOf (text : List Char) : Int :=
  integerOf ((text.dropWhile (· != 'e')).drop 1)

/-- The number that a decimal without a sign stands for. -/
def valueOf (text : List Char) : ℚ :=
  digitsOf (text.takeWhile (· != 'e')) *
    10 ^ (exponentOf text - placesOf (text.takeWhile (· != 'e')))

section Reading

variable {whole fraction mantissa : List Char}

theorem digit_is_no_mark {c : Char} (digit : c.isDigit = true) : c ≠ '.' ∧ c ≠ 'e' := by
  constructor <;> (rintro rfl; revert digit; decide)

theorem digitsOf_digits (each : ∀ c ∈ whole, c.isDigit = true) :
    digitsOf whole = Nat.ofDigitChars 10 whole 0 := by
  rw [digitsOf, List.filter_eq_self.mpr each]

theorem digitsOf_nat (n : Nat) : digitsOf (toString n).toList = n := by
  rw [digitsOf_digits (nat_digits n), ofDigitChars_nat]

theorem integerOf_int (n : Int) : integerOf (toString n).toList = n := by
  obtain ⟨m, ⟨same, text⟩ | ⟨same, text⟩⟩ := int_text n
  · have unsigned : integerOf (toString m).toList = digitsOf (toString m).toList := by
      unfold integerOf
      split
      · next signed =>
        have sign : '-' ∈ (toString m).toList := signed ▸ List.mem_cons_self
        cases nat_digits m '-' sign
      · rfl
    rw [text, unsigned, digitsOf_nat, same]
  · rw [text, integerOf, digitsOf_nat, same]

theorem digitsOf_fraction (left : ∀ c ∈ whole, c.isDigit = true)
    (right : ∀ c ∈ fraction, c.isDigit = true) :
    digitsOf (whole ++ '.' :: fraction) = Nat.ofDigitChars 10 (whole ++ fraction) 0 := by
  rw [digitsOf, List.filter_append, List.filter_cons_of_neg (by decide), ← List.filter_append,
    List.filter_eq_self.mpr (List.forall_mem_append.mpr ⟨left, right⟩)]

theorem placesOf_digits (each : ∀ c ∈ whole, c.isDigit = true) : placesOf whole = 0 := by
  have none_left : whole.dropWhile (· != '.') = [] := by
    rw [List.dropWhile_eq_nil_iff]
    exact fun c member => bne_iff_ne.mpr (digit_is_no_mark (each c member)).1
  rw [placesOf, none_left]
  rfl

/-- The places of a numeral are the digits behind its point. -/
theorem placesOf_fraction (left : ∀ c ∈ whole, c.isDigit = true) :
    placesOf (whole ++ '.' :: fraction) = fraction.length := by
  rw [placesOf, List.dropWhile_append_of_pos
    fun c member => bne_iff_ne.mpr (digit_is_no_mark (left c member)).1]
  rfl

/-- Without an exponent all of a text is its digits and point. -/
theorem valueOf_plain (plain : ∀ c ∈ mantissa, c ≠ 'e') :
    valueOf mantissa = digitsOf mantissa * 10 ^ (-(placesOf mantissa) : Int) := by
  have unmarked : ∀ c ∈ mantissa, (c != 'e') = true := fun c member => bne_iff_ne.mpr (plain c member)
  have whole : mantissa.takeWhile (· != 'e') = mantissa := List.takeWhile_eq_self_iff.mpr unmarked
  have exponent : exponentOf mantissa = 0 := by
    rw [exponentOf, List.dropWhile_eq_nil_iff.mpr unmarked]
    rfl
  rw [valueOf, whole, exponent, Int.zero_sub]

/-- An exponent shifts the point. -/
theorem valueOf_exponent (plain : ∀ c ∈ mantissa, c ≠ 'e') (exponent : Int) :
    valueOf (mantissa ++ 'e' :: (toString exponent).toList) =
      digitsOf mantissa * 10 ^ (exponent - placesOf mantissa) := by
  have unmarked : ∀ c ∈ mantissa, (c != 'e') = true := fun c member => bne_iff_ne.mpr (plain c member)
  have whole : (mantissa ++ 'e' :: (toString exponent).toList).takeWhile (· != 'e') = mantissa := by
    rw [List.takeWhile_append_of_pos unmarked]
    simp
  have read : exponentOf (mantissa ++ 'e' :: (toString exponent).toList) = exponent := by
    rw [exponentOf, List.dropWhile_append_of_pos unmarked]
    exact integerOf_int exponent
  rw [valueOf, whole, read]

end Reading

/-! ## What is written is read -/

section Written

variable {layout : Layout}

theorem digits_unmarked {digits : List Char} (each : ∀ c ∈ digits, c.isDigit = true) :
    ∀ c ∈ digits, c ≠ 'e' :=
  fun c member => (digit_is_no_mark (each c member)).2

theorem fraction_unmarked {whole fraction : List Char} (left : ∀ c ∈ whole, c.isDigit = true)
    (right : ∀ c ∈ fraction, c.isDigit = true) : ∀ c ∈ whole ++ '.' :: fraction, c ≠ 'e' := by
  simp only [List.mem_append, List.mem_cons]
  rintro c (member | rfl | member)
  · exact digits_unmarked left c member
  · decide
  · exact digits_unmarked right c member

/-- Digits with a point among them. -/
theorem valueOf_fraction {whole fraction : List Char} (left : ∀ c ∈ whole, c.isDigit = true)
    (right : ∀ c ∈ fraction, c.isDigit = true) :
    valueOf (whole ++ '.' :: fraction) =
      Nat.ofDigitChars 10 (whole ++ fraction) 0 * 10 ^ (-(fraction.length : Int)) := by
  rw [valueOf_plain (fraction_unmarked left right), digitsOf_fraction left right,
    placesOf_fraction left]

/-- Where a whole number is marked by a point and a zero, the point is read where it was put. -/
theorem valueOf_positional (mark : layout.wholeMark = ".0") (n : Nat) (point : Int) :
    valueOf (layout.positional (toString n) point).toList =
      n * 10 ^ (point - (toString n).length) := by
  have digits := nat_digits n
  have zero : ∀ c ∈ ['0'], c.isDigit = true := List.forall_mem_singleton.mpr rfl
  have length : (toString n).toList.length = (toString n).length := rfl
  unfold Layout.positional
  split
  · next small =>
    have text : ("0." ++ zeros (-point) ++ toString n).toList =
        ['0'] ++ '.' :: ((zeros (-point)).toList ++ (toString n).toList) := by
      simp only [String.toList_append, List.append_assoc]
      rfl
    have read : Nat.ofDigitChars 10 (['0'] ++ ((zeros (-point)).toList ++ (toString n).toList)) 0 = n := by
      rw [← List.append_assoc, Nat.ofDigitChars_append, Nat.ofDigitChars_append, zeros_eq,
        Nat.ofDigitChars_replicate_zero]
      exact ofDigitChars_nat n
    have places : -(((zeros (-point)).toList ++ (toString n).toList).length : Int) =
        point - (toString n).length := by
      rw [List.length_append, zeros_eq, List.length_replicate, length]
      omega
    rw [text, valueOf_fraction zero (List.forall_mem_append.mpr ⟨zeros_digits _, digits⟩), read,
      places]
  · next positive =>
    split
    · next whole =>
      obtain ⟨more, padded⟩ := Int.eq_ofNat_of_zero_le (Int.sub_nonneg_of_le whole)
      have text : (toString n ++ zeros (point - (toString n).length) ++ layout.wholeMark).toList =
          ((toString n).toList ++ (zeros (point - (toString n).length)).toList) ++ '.' :: ['0'] := by
        rw [mark, String.toList_append, String.toList_append]
        rfl
      have read : Nat.ofDigitChars 10 (((toString n).toList ++
          (zeros (point - (toString n).length)).toList) ++ ['0']) 0 = 10 * (10 ^ more * n) := by
        rw [Nat.ofDigitChars_append, Nat.ofDigitChars_append, ofDigitChars_nat, zeros_eq, padded,
          Nat.ofDigitChars_replicate_zero]
        rfl
      rw [text, valueOf_fraction (List.forall_mem_append.mpr ⟨digits, zeros_digits _⟩) zero, read, padded,
        zpow_natCast]
      have place : (10 : ℚ) ^ (-(['0'].length : Int)) = 10⁻¹ := zpow_neg_one 10
      rw [place]
      push_cast
      ring
    · next inner =>
      have right : ∀ c ∈ (toString n).toList.drop point.toNat, c.isDigit = true :=
        fun c member => digits c (List.mem_of_mem_drop member)
      have left : ∀ c ∈ (toString n).toList.take point.toNat, c.isDigit = true :=
        fun c member => digits c (List.mem_of_mem_take member)
      have places : -(((toString n).toList.drop point.toNat).length : Int) =
          point - (toString n).length := by
        rw [List.length_drop, length]
        omega
      simp only [String.toList_append, String.toList_ofList, List.append_assoc]
      refine (valueOf_fraction left right).trans ?_
      rw [List.take_append_drop, ofDigitChars_nat, places]

/-- A number with an exponent is read with its point moved by the exponent. -/
theorem valueOf_scientific (mark : layout.exponentMark = "") (n : Nat) (point : Int) :
    valueOf (layout.scientific (toString n) point).toList =
      n * 10 ^ (point - (toString n).length) := by
  have digits := nat_digits n
  have read := ofDigitChars_nat n
  have length : (toString n).toList.length = (toString n).length := rfl
  have exponent : ("e" ++ (if 1 < point then layout.exponentMark else "") ++
      toString (point - 1)).toList = 'e' :: (toString (point - 1)).toList := by
    rw [mark, ite_self, String.append_empty, String.toList_append]
    rfl
  unfold Layout.scientific
  dsimp only
  split
  · next first next rest shape =>
    rw [shape] at digits
    have left : ∀ c ∈ [first], c.isDigit = true := by simpa using digits first (.head _)
    have right : ∀ c ∈ next :: rest, c.isDigit = true :=
      fun c member => digits c (List.mem_cons_of_mem first member)
    have places : point - 1 - ((next :: rest).length : Int) = point - (toString n).length := by
      rw [← length, shape, List.length_cons (a := first)]
      omega
    rw [String.toList_append, String.toList_ofList, exponent]
    refine (valueOf_exponent (fraction_unmarked left right) (point - 1)).trans ?_
    rw [digitsOf_fraction left right, placesOf_fraction left, places, List.singleton_append, ← shape,
      read]
  · next short =>
    have single : (toString n).length = 1 := by
      rw [← length]
      match found : (toString n).toList with
      | [] => exact absurd found (nat_digits_nonempty n)
      | [digit] => rfl
      | first :: next :: rest => exact absurd found (short first next rest)
    rw [String.toList_append, exponent, valueOf_exponent (digits_unmarked digits), digitsOf_nat,
      placesOf_digits digits, single]
    norm_cast
    simp only [Int.sub_zero]

end Written

/-! ## Doubles -/

/-- The text of a double is a sign, where it is negative, before a magnitude that is read as the
shortest decimal. -/
theorem compact_read (x : Binary64) : ∃ magnitude : String, IsUnsigned magnitude.toList ∧
    (compact.text x = if x.negative then "-" ++ magnitude else magnitude) ∧
      valueOf magnitude.toList = (shortest .even x).value := by
  obtain ⟨n, point, magnitude, laid, written, found⟩ := compact_text x
  refine ⟨magnitude, unsigned_magnitude laid, written, ?_⟩
  rw [found, GridPoint.value]
  rcases laid with rfl | rfl
  · exact valueOf_positional rfl n point
  · exact valueOf_scientific rfl n point

/-- A sign before a magnitude is no part of it. -/
theorem signed_inj {first second : Bool} {magnitude other : String}
    (left : IsUnsigned magnitude.toList) (right : IsUnsigned other.toList)
    (same : (if first then "-" ++ magnitude else magnitude) = if second then "-" ++ other else other) :
    first = second ∧ magnitude = other := by
  have unsigned {text rest : String} (unsigned : IsUnsigned text.toList) : text ≠ "-" ++ rest := by
    rintro rfl
    have digit := unsigned.first_digit
    rw [String.toList_append] at digit
    cases digit
  cases first <;> cases second
  · exact ⟨rfl, same⟩
  · exact absurd same (unsigned left)
  · exact absurd same.symm (unsigned right)
  · have chars := congrArg String.toList same
    rw [if_pos rfl, if_pos rfl, String.toList_append, String.toList_append] at chars
    exact ⟨rfl, String.toList_inj.mp (List.append_cancel_left chars)⟩

/-- Two doubles that are written alike are one. -/
theorem compact_inj {x y : Binary64} (same : compact.text x = compact.text y) : x = y := by
  obtain ⟨magnitude, unsigned, written, read⟩ := compact_read x
  obtain ⟨other, unsigned', written', read'⟩ := compact_read y
  rw [written, written'] at same
  obtain ⟨signs, rfl⟩ := signed_inj unsigned unsigned' same
  exact Binary64.ext_of_rank signs (rank_of_shortest (read.symm.trans read'))

/-- A double is written with a point or an exponent. -/
theorem compact_marked (x : Binary64) : ∃ c ∈ (compact.text x).toList, c = '.' ∨ c = 'e' := by
  obtain ⟨n, point, magnitude, laid, written, -⟩ := compact_text x
  have marked : ∃ c ∈ magnitude.toList, c = '.' ∨ c = 'e' := by
    rcases laid with rfl | rfl
    · unfold Layout.positional
      split
      · exact ⟨'.', by simp, .inl rfl⟩
      · split
        · exact ⟨'.', by simp [compact], .inl rfl⟩
        · exact ⟨'.', by simp, .inl rfl⟩
    · unfold Layout.scientific
      dsimp only
      split <;> exact ⟨'e', by simp, .inr rfl⟩
  obtain ⟨c, member, mark⟩ := marked
  refine ⟨c, ?_, mark⟩
  rw [written]
  split
  · rw [String.toList_append]
    exact List.mem_append_right _ member
  · exact member

/-- No double is written as an integer is. -/
theorem compact_ne_int (x : Binary64) (n : Int) : compact.text x ≠ toString n := by
  intro same
  obtain ⟨c, member, mark⟩ := compact_marked x
  rw [same] at member
  have digits (m : Nat) (inside : c ∈ (toString m).toList) : False := by
    have digit := digit_is_no_mark (nat_digits m c inside)
    exact mark.elim digit.1 digit.2
  obtain ⟨m, ⟨-, text⟩ | ⟨-, text⟩⟩ := int_text n
  · exact digits m (text ▸ member)
  · rw [text] at member
    rcases List.mem_cons.mp member with rfl | inside
    · revert mark
      decide
    · exact digits m inside

end ColumnQuery.Decimal
