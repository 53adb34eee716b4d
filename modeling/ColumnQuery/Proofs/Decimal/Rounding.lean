import ColumnQuery.Decimal.Shortest
import ColumnQuery.Proofs.Decimal.Nearest
import Mathlib.Algebra.Order.Field.Basic
import Mathlib.Algebra.Order.Ring.Rat
import Mathlib.Tactic.Positivity
import Mathlib.Tactic.Ring

/-! The shortest decimal of a double belongs to that double alone. The search ends at a point of the
interval that rounds to the double, since the last grid is finer than every interval; and the intervals
of two magnitudes have no point in common. Where they touch, the point rounds to the even one. -/
namespace ColumnQuery

namespace Binary64

/-- The position of the magnitude among all magnitudes: the bits without the sign. -/
def rank (x : Binary64) : Nat :=
  x.bits.toNat % 0x8000000000000000

/-- The exponent field, where zeros and subnormal numbers count with the smallest normal ones. -/
def binade (x : Binary64) : Nat :=
  max 1 x.exponentField

section Fields

variable {x y : Binary64}

/-- A double is known by its sign and its rank. -/
theorem ext_of_rank (signs : x.negative = y.negative) (ranks : x.rank = y.rank) : x = y := by
  have left := x.bits.toNat_lt
  have right := y.bits.toNat_lt
  have same : x.bits.toNat = y.bits.toNat := by
    unfold negative rank at *
    rw [decide_eq_decide] at signs
    omega
  cases x
  cases y
  exact congrArg mk (UInt64.toNat_inj.mp same)

theorem rank_eq (x : Binary64) : x.rank = (x.binade - 1) * fractionCount + x.significand := by
  unfold rank binade significand exponentField fractionField fractionCount
  split <;> omega

theorem scale_eq (x : Binary64) : x.scale = (x.binade : Int) - 1075 := by
  unfold scale binade
  split <;> omega

theorem one_le_binade (x : Binary64) : 1 ≤ x.binade :=
  Nat.le_max_left 1 _

theorem significand_lt (x : Binary64) : x.significand < 2 * fractionCount := by
  unfold significand fractionField fractionCount
  split <;> omega

/-- Above the first binade a significand has its leading bit. -/
theorem leading_bit (above : 1 < x.binade) : fractionCount ≤ x.significand := by
  unfold binade at above
  unfold significand
  split <;> omega

/-- Magnitudes count up through one binade after the other. -/
theorem binade_le_of_rank (ranked : x.rank ≤ y.rank) : x.binade ≤ y.binade := by
  have fractions : fractionCount = 4503599627370496 := rfl
  have right := significand_lt y
  have positive := one_le_binade y
  rw [rank_eq, rank_eq, fractions] at ranked
  by_contra later
  have leading := leading_bit (x := x) (by omega)
  omega

theorem significand_of_binadeStart (start : x.atBinadeStart = true) :
    1 < x.binade ∧ x.significand = fractionCount := by
  unfold atBinadeStart at start
  rw [Bool.and_eq_true, beq_iff_eq, decide_eq_true_eq] at start
  unfold binade significand
  split <;> omega

theorem significand_above_start (above : 1 < x.binade) (other : x.atBinadeStart = false) :
    fractionCount < x.significand := by
  unfold atBinadeStart at other
  rw [Bool.and_eq_false_iff, beq_eq_false_iff_ne, decide_eq_false_iff_not] at other
  unfold binade at above
  unfold significand
  split <;> omega

end Fields

theorem ratio_den_pos {base : Nat} (positive : 0 < base) (exponent : Int) :
    0 < (powerRatio base exponent).2 :=
  Nat.pow_pos positive

theorem ratio_num_pos {base : Nat} (positive : 0 < base) (exponent : Int) :
    0 < (powerRatio base exponent).1 :=
  Nat.pow_pos positive

theorem ratio_den_le {base most : Nat} {exponent : Int} (positive : 0 < base)
    (bounded : -exponent ≤ most) : (powerRatio base exponent).2 ≤ base ^ most :=
  Nat.pow_le_pow_right positive (by omega)

/-- The two numbers of a ratio are the power that they stand for. -/
theorem ratio_value {base : Nat} (positive : 0 < base) (exponent : Int) :
    ((powerRatio base exponent).1 : ℚ) / (powerRatio base exponent).2 = (base : ℚ) ^ exponent := by
  have nonzero : (base : ℚ) ≠ 0 := by positivity
  have split : exponent = (exponent.toNat : Int) - ((-exponent).toNat : Int) := by omega
  have num : ((powerRatio base exponent).1 : ℚ) = (base : ℚ) ^ exponent.toNat := Nat.cast_pow ..
  have den : ((powerRatio base exponent).2 : ℚ) = (base : ℚ) ^ (-exponent).toNat := Nat.cast_pow ..
  rw [num, den]
  nth_rewrite 3 [split]
  rw [zpow_sub₀ nonzero, zpow_natCast, zpow_natCast]

end Binary64

namespace Decimal
open Binary64

/-- The number that a point of a grid stands for. -/
def GridPoint.value (point : GridPoint) : ℚ :=
  point.digits * 10 ^ point.exponent

/-- What the ends of an interval are counted in. -/
def Interval.unitValue (range : Interval) : ℚ :=
  range.unit.1 / range.unit.2

/-- The points of an interval. -/
def Interval.Contains (range : Interval) (value : ℚ) : Prop :=
  if range.closed then range.low * range.unitValue ≤ value ∧ value ≤ range.high * range.unitValue
  else range.low * range.unitValue < value ∧ value < range.high * range.unitValue

theorem Interval.between {range : Interval} {value : ℚ} (inside : range.Contains value) :
    range.low * range.unitValue ≤ value ∧ value ≤ range.high * range.unitValue := by
  unfold Contains at inside
  split at inside
  · exact inside
  · exact ⟨inside.1.le, inside.2.le⟩

/-- An end of an interval that is one of its points is included. -/
theorem Interval.closed_of_high {range : Interval} {value : ℚ} (inside : range.Contains value)
    (atEnd : value = range.high * range.unitValue) : range.closed = true := by
  by_contra opened
  rw [Contains, if_neg opened] at inside
  exact absurd atEnd (ne_of_lt inside.2)

theorem Interval.closed_of_low {range : Interval} {value : ℚ} (inside : range.Contains value)
    (atEnd : value = range.low * range.unitValue) : range.closed = true := by
  by_contra opened
  rw [Contains, if_neg opened] at inside
  exact absurd atEnd (ne_of_gt inside.1)

/-! ## The search -/

/-- Two multiples of ratios are compared as multiples in one measure. -/
theorem scaled_le {a b num den num' den' : Nat} (positive : 0 < den) (positive' : 0 < den') :
    a * (num * den') ≤ b * (num' * den) ↔ (a : ℚ) * (num / den) ≤ b * (num' / den') := by
  have left : (0 : ℚ) < den := by exact_mod_cast positive
  have right : (0 : ℚ) < den' := by exact_mod_cast positive'
  rw [← mul_div_assoc, ← mul_div_assoc, div_le_div_iff₀ left right]
  norm_cast
  rw [Nat.mul_assoc, Nat.mul_assoc]

theorem scaled_lt {a b num den num' den' : Nat} (positive : 0 < den) (positive' : 0 < den') :
    a * (num * den') < b * (num' * den) ↔ (a : ℚ) * (num / den) < b * (num' / den') := by
  rw [← not_le, ← not_le, scaled_le positive' positive]

section Grid

variable {range : Interval} {tie : Tie} {exponent : Int} {point : Nat}

/-- The test in natural numbers is about the point of the grid. -/
theorem holds_iff (unit : 0 < range.unit.2) :
    range.holds ((powerRatio 10 exponent).1 * range.unit.2)
        (range.unit.1 * (powerRatio 10 exponent).2) point = true ↔
      range.Contains (point * 10 ^ exponent) := by
  have den : 0 < (powerRatio 10 exponent).2 := ratio_den_pos (by decide) exponent
  have power : (10 : ℚ) ^ exponent = (powerRatio 10 exponent).1 / (powerRatio 10 exponent).2 :=
    (ratio_value (by decide) exponent).symm
  unfold Interval.holds Interval.Contains
  rw [power, Interval.unitValue, ← scaled_le unit den, ← scaled_le den unit, ← scaled_lt unit den,
    ← scaled_lt den unit]
  split <;> simp only [Bool.and_eq_true, decide_eq_true_eq]

/-- What is found on a grid lies in the interval. -/
theorem contains_of_pointOnGrid (unit : 0 < range.unit.2)
    (found : range.pointOnGrid? tie exponent = some point) :
    range.Contains (point * 10 ^ exponent) := by
  rw [← holds_iff unit]
  unfold Interval.pointOnGrid? at found
  dsimp only at found
  generalize range.centre * _ / _ = below at found
  split at found
  · next here _ =>
    cases found
    exact here
  · next _ here =>
    cases found
    exact here
  · cases found
  · next lower upper =>
    split at found
    · cases found
      exact lower
    · split at found
      · cases found
        exact upper
      · cases tie with
        | up =>
          cases found
          exact upper
        | even =>
          cases found
          rcases Nat.mod_two_eq_zero_or_one below with even | odd
          · rw [even]
            exact lower
          · rw [odd]
            exact upper

/-- Between two points of a grid that is finer than the interval is wide, its centre has one of them
beside it in the interval. -/
theorem holds_around {step scale : Nat} (stepped : 0 < step) (scaled : 0 < scale)
    (centred : range.low < range.centre ∧ range.centre < range.high)
    (fine : step < (range.high - range.low) * scale) :
    range.holds step scale (range.centre * scale / step) = true ∨
      range.holds step scale (range.centre * scale / step + 1) = true := by
  have atMost := Nat.div_mul_le_self (range.centre * scale) step
  have next : range.centre * scale < (range.centre * scale / step + 1) * step := by
    rw [Nat.mul_comm (_ + 1)]
    exact Nat.lt_mul_div_succ _ stepped
  have low : range.low * scale < range.centre * scale := Nat.mul_lt_mul_of_pos_right centred.1 scaled
  have high : range.centre * scale < range.high * scale :=
    Nat.mul_lt_mul_of_pos_right centred.2 scaled
  rw [Nat.sub_mul] at fine
  generalize range.centre * scale / step = below at atMost next ⊢
  rw [Nat.succ_mul] at next
  unfold Interval.holds
  rw [Nat.succ_mul]
  by_cases inside : range.low * scale < below * step
  · left
    split <;> simp only [Bool.and_eq_true, decide_eq_true_eq] <;> omega
  · right
    split <;> simp only [Bool.and_eq_true, decide_eq_true_eq] <;> omega

theorem pointOnGrid_of_fine (unit : 0 < range.unit.1 ∧ 0 < range.unit.2)
    (centred : range.low < range.centre ∧ range.centre < range.high)
    (fine : (powerRatio 10 exponent).1 * range.unit.2 <
      (range.high - range.low) * (range.unit.1 * (powerRatio 10 exponent).2)) :
    (range.pointOnGrid? tie exponent).isSome := by
  have step : 0 < (powerRatio 10 exponent).1 * range.unit.2 :=
    Nat.mul_pos (ratio_num_pos (by decide) exponent) unit.2
  have scale : 0 < range.unit.1 * (powerRatio 10 exponent).2 :=
    Nat.mul_pos unit.1 (ratio_den_pos (by decide) exponent)
  have around := holds_around step scale centred fine
  unfold Interval.pointOnGrid?
  dsimp only
  split
  · rfl
  · rfl
  · next lower upper =>
    rw [lower, upper] at around
    simp at around
  · split
    · rfl
    · split
      · rfl
      · cases tie <;> rfl

/-- Where the last grid has a point in the interval, the search ends at a point of the interval. -/
theorem contains_of_search (unit : 0 < range.unit.2) {count : Nat}
    (last : (range.pointOnGrid? tie (exponent - count)).isSome) :
    range.Contains (range.search tie (count + 1) exponent).value := by
  induction count generalizing exponent with
  | zero =>
    obtain ⟨digits, found⟩ := Option.isSome_iff_exists.mp last
    rw [Nat.cast_zero, Int.sub_zero] at found
    rw [Interval.search, found]
    exact contains_of_pointOnGrid unit found
  | succ count ih =>
    rw [Interval.search]
    split
    · next digits found => exact contains_of_pointOnGrid unit found
    · refine ih ?_
      rwa [Int.sub_sub, Int.add_comm 1, ← Nat.cast_succ]

end Grid

/-! ## The intervals of doubles -/

section Doubles

variable {x y : Binary64}

/-- The ends of an interval are counted in quarters of the last place. -/
theorem unitValue_of (x : Binary64) : (Interval.of x).unitValue = 2 ^ ((x.binade : Int) - 1077) := by
  have unit : x.scale - 2 = (x.binade : Int) - 1077 := by
    rw [scale_eq]
    omega
  rw [Interval.unitValue, Interval.of, ratio_value (by decide), unit]
  norm_cast

theorem unitValue_pos (x : Binary64) : 0 < (Interval.of x).unitValue := by
  rw [unitValue_of]
  exact zpow_pos (by norm_num) _

theorem centred_of (positive : x.significand ≠ 0) :
    (Interval.of x).low < (Interval.of x).centre ∧ (Interval.of x).centre < (Interval.of x).high := by
  unfold Interval.of
  dsimp only
  split <;> omega

theorem scale_bounded (x : Binary64) : -(x.scale - 2) ≤ (1076 : Nat) := by
  have := scale_eq x
  have := one_le_binade x
  omega

/-- The interval of a positive double is at least three quarters of its last place wide. -/
theorem fine_of (positive : x.significand ≠ 0) {bits places : Nat} (bounded : -(x.scale - 2) ≤ bits)
    (enough : 2 ^ bits < 3 * 10 ^ places) :
    (powerRatio 10 (-places)).1 * (Interval.of x).unit.2 <
      ((Interval.of x).high - (Interval.of x).low) *
        ((Interval.of x).unit.1 * (powerRatio 10 (-places)).2) := by
  have wide : 3 ≤ (Interval.of x).high - (Interval.of x).low := by
    unfold Interval.of
    dsimp only
    split <;> omega
  have num : 1 ≤ (Interval.of x).unit.1 := ratio_num_pos (by decide) _
  have den : (Interval.of x).unit.2 ≤ 2 ^ bits := ratio_den_le (by decide) bounded
  rw [powerRatio_down]
  calc 1 * (Interval.of x).unit.2 ≤ 2 ^ bits := by rwa [Nat.one_mul]
    _ < 3 * (1 * 10 ^ places) := by rwa [Nat.one_mul]
    _ ≤ _ := Nat.mul_le_mul wide (Nat.mul_le_mul_right _ num)

/-- The shortest decimal of a double rounds to it. -/
theorem contains_shortest (positive : x.significand ≠ 0) (tie : Tie) :
    (Interval.of x).Contains (shortest tie x).value := by
  have unit : 0 < (Interval.of x).unit.1 ∧ 0 < (Interval.of x).unit.2 :=
    ⟨ratio_num_pos (by decide) _, ratio_den_pos (by decide) _⟩
  -- The last grid is finer than the interval of the smallest positive double.
  have enough : 2 ^ 1076 < 3 * 10 ^ 324 := by decide +kernel
  have fine := fine_of positive (scale_bounded x) enough
  rw [shortest, if_neg positive]
  exact contains_of_search unit.2 (pointOnGrid_of_fine unit (centred_of positive) fine)

theorem closed_iff (x : Binary64) : (Interval.of x).closed = true ↔ x.significand % 2 = 0 :=
  beq_iff_eq

/-- The interval of a magnitude ends where that of a larger one begins, or before. Where they touch,
only one of the two has the common end. -/
theorem ends_ordered (below : x.rank < y.rank) :
    ∃ more, y.binade = x.binade + more ∧
      (Interval.of x).high ≤ (Interval.of y).low * 2 ^ more ∧
      ((Interval.of x).high = (Interval.of y).low * 2 ^ more →
        ¬ ((Interval.of x).closed = true ∧ (Interval.of y).closed = true)) := by
  have fractions : fractionCount = 4503599627370496 := rfl
  have left := significand_lt x
  have positive := one_le_binade x
  have ordered := binade_le_of_rank below.le
  have high : (Interval.of x).high = 4 * x.significand + 2 := rfl
  have low : (Interval.of y).low = 4 * y.significand - (if y.atBinadeStart then 1 else 2) := rfl
  rw [rank_eq, rank_eq, fractions] at below
  rw [fractions] at left
  obtain ⟨more, same⟩ := Nat.exists_eq_add_of_le ordered
  refine ⟨more, same, ?_⟩
  rw [high, low, closed_iff, closed_iff]
  cases more with
  | zero =>
    -- In one binade the significands count up, and two neighbours are not both even.
    have smaller : x.significand < y.significand := by
      rw [same] at below
      omega
    have inner : y.atBinadeStart = false := Bool.eq_false_iff.mpr fun start => by
      obtain ⟨above, least⟩ := significand_of_binadeStart start
      have leading := leading_bit (x := x) (by omega)
      omega
    simp only [inner, Bool.false_eq_true, ↓reduceIte, Nat.pow_zero, Nat.mul_one]
    omega
  | succ more =>
    have double : 2 ≤ 2 ^ (more + 1) := Nat.le_self_pow (Nat.succ_ne_zero more) 2
    cases start : y.atBinadeStart with
    | false =>
      have larger : fractionCount < y.significand := significand_above_start (by omega) start
      have doubled := Nat.mul_le_mul_left (4 * y.significand - 2) double
      simp only [Bool.false_eq_true, ↓reduceIte]
      omega
    | true =>
      -- The end is shared only with the last magnitude before the binade, which is odd.
      obtain ⟨-, least⟩ := significand_of_binadeStart start
      have doubled := Nat.mul_le_mul_left (4 * y.significand - 1) double
      simp only [↓reduceIte]
      omega

/-- A point lies in the interval of one magnitude only. -/
theorem rank_le_of_contains {value : ℚ} (left : (Interval.of x).Contains value)
    (right : (Interval.of y).Contains value) : y.rank ≤ x.rank := by
  by_contra below
  obtain ⟨more, binades, ordered, touching⟩ := ends_ordered (not_le.mp below)
  have unit : (Interval.of y).unitValue = 2 ^ more * (Interval.of x).unitValue := by
    rw [unitValue_of, unitValue_of, binades, ← zpow_natCast, ← zpow_add₀ (by norm_num)]
    congr 1
    push_cast
    ring
  have upper := (Interval.between left).2
  have lower := (Interval.between right).1
  rw [unit, ← mul_assoc] at lower
  have crossed := le_of_mul_le_mul_right (lower.trans upper) (unitValue_pos x)
  have meet : (Interval.of x).high = (Interval.of y).low * 2 ^ more :=
    Nat.le_antisymm ordered (by exact_mod_cast crossed)
  have common : value = (Interval.of x).high * (Interval.of x).unitValue := by
    refine le_antisymm upper (le_trans (le_of_eq ?_) lower)
    rw [meet]
    push_cast
    rfl
  have common' : value = (Interval.of y).low * (Interval.of y).unitValue := by
    rw [common, meet, unit]
    push_cast
    ring
  exact touching meet ⟨Interval.closed_of_high left common, Interval.closed_of_low right common'⟩

/-- A value lies in the interval of one rank only. -/
theorem rank_of_contains {value : ℚ} (left : (Interval.of x).Contains value)
    (right : (Interval.of y).Contains value) : x.rank = y.rank :=
  Nat.le_antisymm (rank_le_of_contains right left) (rank_le_of_contains left right)

theorem shortest_positive (positive : x.significand ≠ 0) (tie : Tie) :
    0 < (shortest tie x).value := by
  have low : 0 < (Interval.of x).low := by
    unfold Interval.of
    dsimp only
    split <;> omega
  have end_positive : 0 < ((Interval.of x).low : ℚ) * (Interval.of x).unitValue :=
    mul_pos (by exact_mod_cast low) (unitValue_pos x)
  exact lt_of_lt_of_le end_positive (Interval.between (contains_shortest positive tie)).1

theorem shortest_zero (zero : x.significand = 0) (tie : Tie) : (shortest tie x).value = 0 := by
  rw [shortest, if_pos zero, GridPoint.value]
  norm_num

theorem rank_of_zero (zero : x.significand = 0) : x.rank = 0 := by
  rw [rank_eq, zero]
  by_contra nonzero
  have fractions : fractionCount = 4503599627370496 := rfl
  rw [fractions] at nonzero
  have leading := leading_bit (x := x) (by omega)
  omega

/-- Two magnitudes with one shortest decimal are one magnitude. -/
theorem rank_of_shortest {tie : Tie} (same : (shortest tie x).value = (shortest tie y).value) :
    x.rank = y.rank := by
  by_cases left : x.significand = 0
  · by_cases right : y.significand = 0
    · rw [rank_of_zero left, rank_of_zero right]
    · exact absurd (same.symm.trans (shortest_zero left tie)) (shortest_positive right tie).ne'
  · by_cases right : y.significand = 0
    · exact absurd (same.trans (shortest_zero right tie)) (shortest_positive left tie).ne'
    · exact rank_of_contains (contains_shortest left tie) (same ▸ contains_shortest right tie)

end Doubles

end Decimal

end ColumnQuery
