import ColumnQuery.Decimal.Binary64

/-! The double nearest to a natural number. The double of a word is finite, and beyond the signed words
it stands for all words that round to one multiple of 2048. -/
namespace ColumnQuery.Binary64

theorem powerRatio_up (base exponent : Nat) : powerRatio base exponent = (base.pow exponent, 1) := by
  have down : (-(exponent : Int)).toNat = 0 := by omega
  rw [powerRatio, down, Int.toNat_natCast]
  rfl

theorem powerRatio_down (base exponent : Nat) : powerRatio base (-exponent) = (1, base.pow exponent) := by
  have up : (-(exponent : Int)).toNat = 0 := by omega
  rw [powerRatio, up, Int.neg_neg, Int.toNat_natCast]
  rfl

theorem leadingExponent_nat {n : Nat} (positive : n ≠ 0) : leadingExponent n 1 = n.log2 := by
  have below : 1 * 2 ^ n.log2 ≤ n * 1 := by simpa using Nat.log2_self_le positive
  have one : Nat.log2 1 = 0 := rfl
  have guess : (n.log2 : Int) - (Nat.log2 1 : Nat) = n.log2 := by omega
  rw [leadingExponent, guess, powerRatio_up]
  exact if_pos below

/-- Rounding does not pass a whole number that is above. -/
theorem nearestEven_le {num den bound : Nat} (below : num < bound * den) :
    nearestEven num den ≤ bound := by
  have quotient : num / den < bound := by
    rw [Nat.mul_comm] at below
    exact Nat.div_lt_of_lt_mul below
  unfold nearestEven
  dsimp only
  split
  · omega
  · split <;> omega

/-- In units of the last place a natural number is at most the double of all fractions. -/
theorem nearestEven_unit (n : Nat) :
    nearestEven (n * (powerRatio 2 ((n.log2 : Int) - 52)).2)
      (1 * (powerRatio 2 ((n.log2 : Int) - 52)).1) ≤ 2 * fractionCount := by
  have above : n < 2 ^ (n.log2 + 1) := Nat.lt_log2_self
  by_cases large : 52 ≤ n.log2
  · obtain ⟨exponent, same⟩ := Nat.exists_eq_add_of_le large
    have unit : (n.log2 : Int) - 52 = exponent := by omega
    rw [unit, powerRatio_up]
    refine nearestEven_le ?_
    calc n * 1 < 2 ^ (n.log2 + 1) := by rwa [Nat.mul_one]
      _ = 2 ^ (53 + exponent) := by rw [same]; congr 1; omega
      _ = 2 * fractionCount * (1 * 2 ^ exponent) := by rw [Nat.pow_add, Nat.one_mul]; rfl
  · obtain ⟨exponent, same⟩ := Nat.exists_eq_add_of_le (Nat.le_of_not_le large)
    have unit : (n.log2 : Int) - 52 = -exponent := by omega
    rw [unit, powerRatio_down]
    refine nearestEven_le ?_
    calc n * 2 ^ exponent < 2 ^ (n.log2 + 1) * 2 ^ exponent :=
          Nat.mul_lt_mul_of_pos_right above (Nat.two_pow_pos exponent)
      _ = 2 ^ 53 := by rw [← Nat.pow_add]; congr 1; omega
      _ = 2 * fractionCount * (1 * 1) := rfl

/-- A word is not beyond the doubles. -/
theorem ofNat_isFinite {n : Nat} (small : n < 0x10000000000000000) : (ofNat n).isFinite = true := by
  by_cases zero : n = 0
  · subst zero
    decide
  have few : n.log2 < 64 := (Nat.log2_lt zero).mpr small
  have unit : max (-1074) ((n.log2 : Int) - 52) = (n.log2 : Int) - 52 := by omega
  have field : ((n.log2 : Int) - 52 + 1074).toNat = n.log2 + 1022 := by omega
  have significand := nearestEven_unit n
  rw [ofNat, nearest, if_neg zero, leadingExponent_nat zero]
  dsimp only
  rw [unit, field]
  generalize nearestEven _ _ = fraction at significand ⊢
  have fits : (n.log2 + 1022) * fractionCount + fraction < 2047 * fractionCount := by
    unfold fractionCount at *
    omega
  have bound : infinity.bits.toNat = 2047 * fractionCount := rfl
  rw [if_neg (by omega)]
  have word : (n.log2 + 1022) * fractionCount + fraction < 2 ^ 64 :=
    Nat.lt_trans fits (by unfold fractionCount; omega)
  have exponent : ((n.log2 + 1022) * fractionCount + fraction) / fractionCount < 2047 :=
    (Nat.div_lt_iff_lt_mul (by decide)).mpr fits
  rw [isFinite, exponentField, UInt64.toNat_ofNat_of_lt' word, bne_iff_ne,
    Nat.mod_eq_of_lt (Nat.lt_succ_of_lt exponent)]
  exact Nat.ne_of_lt exponent

theorem nearestEven_of_wide {n : Nat} (small : n < 0x10000000000000000) :
    nearestEven n 2048 ≤ 2 * fractionCount :=
  nearestEven_le (by unfold fractionCount; omega)

/-- The bits of the double nearest to an unsigned word beyond the signed ones, the last place of which
is worth 2048. -/
theorem ofNat_of_wide {n : Nat} (wide : 0x8000000000000000 ≤ n) (small : n < 0x10000000000000000) :
    ofNat n = ⟨UInt64.ofNat (1085 * fractionCount + nearestEven n 2048)⟩ := by
  have positive : n ≠ 0 := by omega
  have log : n.log2 = 63 := (Nat.log2_eq_iff positive).mpr ⟨wide, small⟩
  have unit : max (-1074) (((63 : Nat) : Int) - 52) = 11 := rfl
  have power : powerRatio 2 11 = (2048, 1) := rfl
  have field : ((11 : Int) + 1074).toNat = 1085 := rfl
  have bound : infinity.bits.toNat = 2047 * fractionCount := rfl
  have significand := nearestEven_of_wide small
  rw [ofNat, nearest, if_neg positive, leadingExponent_nat positive, log]
  dsimp only
  rw [unit, power, field, bound]
  dsimp only
  rw [Nat.mul_one, Nat.one_mul, if_neg]
  unfold fractionCount at *
  omega

/-- Two of these words have one nearest double exactly when they round to one multiple of 2048. -/
theorem ofNat_eq_iff_of_wide {n m : Nat} (left : 0x8000000000000000 ≤ n ∧ n < 0x10000000000000000)
    (right : 0x8000000000000000 ≤ m ∧ m < 0x10000000000000000) :
    ofNat n = ofNat m ↔ nearestEven n 2048 = nearestEven m 2048 := by
  have first := nearestEven_of_wide left.2
  have second := nearestEven_of_wide right.2
  rw [ofNat_of_wide left.1 left.2, ofNat_of_wide right.1 right.2]
  constructor
  · intro same
    have bits := congrArg (fun x : Binary64 => x.bits.toNat) same
    dsimp only at bits
    unfold fractionCount at *
    rw [UInt64.toNat_ofNat_of_lt' (by change _ < 2 ^ 64; omega),
      UInt64.toNat_ofNat_of_lt' (by change _ < 2 ^ 64; omega)] at bits
    omega
  · intro same
    rw [same]

end ColumnQuery.Binary64
