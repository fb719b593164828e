import HolderBond.Decimal.Binary64
import Mathlib.Algebra.Order.Field.Power
import Mathlib.Data.Rat.Cast.Order
import Mathlib.Tactic.FieldSimp
import Mathlib.Tactic.Linarith
import Mathlib.Tactic.NormNum
import Mathlib.Tactic.Positivity
import Mathlib.Tactic.Push
import Mathlib.Tactic.Ring

/-!
# Rounding to the nearest number

Around every finite number lie the fractions that round to it: half way to each neighbour, the
ends included when the significand is even.  Any decimal of such a fraction is read as the
number, whatever its digits.
-/

set_option autoImplicit false

namespace HolderBond.Binary64

/-! ## Powers of ten and of two -/

/-- One comparison of powers settles those of all exponents in a smaller ratio; it has to go the
other way round where the exponents are negative. -/
theorem zpow_le_zpow_of_ratio {a b : ℚ} (one_le_a : 1 ≤ a) (one_le_b : 1 ≤ b) {p s u v : ℤ}
    (positive : 0 < p) (known : (0 ≤ u ∧ a ^ p ≤ b ^ s) ∨ (u ≤ 0 ∧ b ^ s ≤ a ^ p))
    (ratio : s * u ≤ p * v) : a ^ u ≤ b ^ v := by
  have aboveA : 0 < a := lt_of_lt_of_le one_pos one_le_a
  have aboveB : 0 < b := lt_of_lt_of_le one_pos one_le_b
  have powers : (a ^ p) ^ u ≤ (b ^ s) ^ u := by
    rcases known with ⟨nonneg, known⟩ | ⟨nonpos, known⟩
    · exact zpow_le_zpow_left₀ nonneg (by positivity) known
    · have opposite := zpow_le_zpow_left₀ (show 0 ≤ -u by omega) (by positivity) known
      rw [zpow_neg, zpow_neg] at opposite
      exact (inv_le_inv₀ (by positivity) (by positivity)).1 opposite
  rw [← zpow_le_zpow_iff_left₀ (by positivity) (by positivity) positive]
  calc (a ^ u) ^ p = (a ^ p) ^ u := by rw [← zpow_mul, ← zpow_mul, mul_comm]
    _ ≤ (b ^ s) ^ u := powers
    _ = b ^ (s * u) := by rw [← zpow_mul]
    _ ≤ b ^ (p * v) := zpow_le_zpow_right₀ one_le_b ratio
    _ = (b ^ v) ^ p := by rw [← zpow_mul, mul_comm]

theorem ten_zpow_le_two_zpow {u v : ℤ} (large : 10 * u ≤ 3 * v) (small : 93 * u ≤ 28 * v) :
    (10 : ℚ) ^ u ≤ 2 ^ v := by
  rcases le_total 0 u with nonneg | nonpos
  · exact zpow_le_zpow_of_ratio (by norm_num) (by norm_num) (by norm_num)
      (Or.inl ⟨nonneg, by norm_num⟩) large
  · exact zpow_le_zpow_of_ratio (by norm_num) (by norm_num) (by norm_num)
      (Or.inr ⟨nonpos, by norm_num⟩) small

theorem two_zpow_le_ten_zpow {u v : ℤ} (large : 28 * u ≤ 93 * v) (small : 3 * u ≤ 10 * v) :
    (2 : ℚ) ^ u ≤ 10 ^ v := by
  rcases le_total 0 u with nonneg | nonpos
  · exact zpow_le_zpow_of_ratio (by norm_num) (by norm_num) (by norm_num)
      (Or.inl ⟨nonneg, by norm_num⟩) large
  · exact zpow_le_zpow_of_ratio (by norm_num) (by norm_num) (by norm_num)
      (Or.inr ⟨nonpos, by norm_num⟩) small

/-! ## Nearest integers -/

/-- The fractions whose nearest integer, ties going to the even one, is `k`. -/
def IsNearest (k : Nat) (r : ℚ) : Prop :=
  if k % 2 = 0 then (k : ℚ) - 1 / 2 ≤ r ∧ r ≤ k + 1 / 2
  else (k : ℚ) - 1 / 2 < r ∧ r < k + 1 / 2

theorem isNearest_div_iff {numerator denominator : Nat} (k : Nat) (positive : 0 < denominator) :
    IsNearest k ((numerator : ℚ) / denominator) ↔
      if k % 2 = 0 then
        2 * (denominator * k) ≤ 2 * numerator + denominator ∧
          2 * numerator ≤ 2 * (denominator * k) + denominator
      else
        2 * (denominator * k) < 2 * numerator + denominator ∧
          2 * numerator < 2 * (denominator * k) + denominator := by
  have above : (0 : ℚ) < denominator := by exact_mod_cast positive
  unfold IsNearest
  rw [le_div_iff₀ above, div_le_iff₀ above, lt_div_iff₀ above, div_lt_iff₀ above]
  split
  · rw [← Nat.cast_le (α := ℚ), ← Nat.cast_le (α := ℚ)]
    push_cast
    constructor <;> rintro ⟨low, high⟩ <;> constructor <;> linarith
  · rw [← Nat.cast_lt (α := ℚ), ← Nat.cast_lt (α := ℚ)]
    push_cast
    constructor <;> rintro ⟨low, high⟩ <;> constructor <;> linarith

theorem roundHalfEven_eq {numerator denominator k : Nat} (positive : 0 < denominator)
    (near : IsNearest k ((numerator : ℚ) / denominator)) :
    roundHalfEven numerator denominator = k := by
  rw [isNearest_div_iff k positive] at near
  have whole := Nat.div_add_mod numerator denominator
  have small := Nat.mod_lt numerator positive
  have atMost : 2 * (denominator * k) ≤ 2 * numerator + denominator := by
    split at near <;> omega
  have atLeast : 2 * numerator ≤ 2 * (denominator * k) + denominator := by
    split at near <;> omega
  -- Only the quotient and its successor are near enough.
  have notBelow : numerator / denominator ≤ k := by
    by_contra below
    have more : denominator * (k + 1) ≤ denominator * (numerator / denominator) :=
      Nat.mul_le_mul_left _ (by omega)
    rw [Nat.mul_add] at more
    omega
  have notAbove : k ≤ numerator / denominator + 1 := by
    by_contra above
    have more : denominator * (numerator / denominator + 2) ≤ denominator * k :=
      Nat.mul_le_mul_left _ (by omega)
    rw [Nat.mul_add] at more
    omega
  have either : k = numerator / denominator ∨ k = numerator / denominator + 1 := by omega
  unfold roundHalfEven
  rcases either with rfl | rfl
  · split at near <;> grind
  · rw [Nat.mul_add] at near
    split at near <;> grind

/-! ## Fractions that round to a number -/

/-- How far below a number its interval reaches, in units of its last place: the numbers below a
power of two lie twice as close. -/
def below (x : Binary64) : ℚ :=
  if x.fraction.val = 0 ∧ 1 < x.exponent.val then 1 / 4 else 1 / 2

/-- The fractions that round to a number's magnitude. -/
def Rounds (x : Binary64) (r : ℚ) : Prop :=
  if x.significand % 2 = 0 then
    (x.significand - x.below) * 2 ^ x.scale ≤ r ∧ r ≤ (x.significand + 1 / 2) * 2 ^ x.scale
  else
    (x.significand - x.below) * 2 ^ x.scale < r ∧ r < (x.significand + 1 / 2) * 2 ^ x.scale

theorem below_le (x : Binary64) : x.below ≤ 1 / 2 := by
  unfold below
  split <;> norm_num

theorem significand_lt (x : Binary64) : x.significand < 0x20000000000000 := by
  have small := x.fraction.isLt
  unfold significand
  split <;> omega

theorem scale_range (x : Binary64) : -1074 ≤ x.scale ∧ x.scale ≤ 971 := by
  have small := x.exponent.isLt
  unfold scale
  split <;> omega

namespace Rounds

variable {x : Binary64} {r : ℚ}

theorem lower (rounds : x.Rounds r) : (x.significand - x.below) * 2 ^ x.scale ≤ r := by
  unfold Rounds at rounds
  split at rounds
  · exact rounds.1
  · exact rounds.1.le

theorem upper (rounds : x.Rounds r) : r ≤ (x.significand + 1 / 2) * 2 ^ x.scale := by
  unfold Rounds at rounds
  split at rounds
  · exact rounds.2
  · exact rounds.2.le

/-- What lies strictly within the interval rounds to the number, its significand even or odd. -/
theorem of_lt (low : (x.significand - x.below) * 2 ^ x.scale < r)
    (high : r < (x.significand + 1 / 2) * 2 ^ x.scale) : x.Rounds r := by
  unfold Rounds
  split
  · exact ⟨low.le, high.le⟩
  · exact ⟨low, high⟩

theorem isNearest (rounds : x.Rounds r) : IsNearest x.significand (r / 2 ^ x.scale) := by
  have unit : (0 : ℚ) < 2 ^ x.scale := by positivity
  have reach := x.below_le
  unfold Rounds at rounds
  unfold IsNearest
  rw [le_div_iff₀ unit, div_le_iff₀ unit, lt_div_iff₀ unit, div_lt_iff₀ unit]
  split at rounds
  · next even =>
      rw [if_pos even]
      refine ⟨le_trans ?_ rounds.1, rounds.2⟩
      exact mul_le_mul_of_nonneg_right (by linarith) unit.le
  · next odd =>
      rw [if_neg odd]
      refine ⟨lt_of_le_of_lt ?_ rounds.1, rounds.2⟩
      exact mul_le_mul_of_nonneg_right (by linarith) unit.le

theorem least (rounds : x.Rounds r) (nonzero : x.isZero = false) : (2 : ℚ) ^ (-1075 : ℤ) ≤ r := by
  have one : (1 : ℚ) ≤ x.significand := by
    have positive : 1 ≤ x.significand := by
      simp only [isZero, beq_eq_false_iff_ne] at nonzero
      omega
    exact_mod_cast positive
  have reach := x.below_le
  calc (2 : ℚ) ^ (-1075 : ℤ) = 1 / 2 * 2 ^ (-1074 : ℤ) := by
        rw [show (-1075 : ℤ) = -1 + -1074 by norm_num, zpow_add₀ (by norm_num)]
        norm_num
    _ ≤ 1 / 2 * 2 ^ x.scale := by
        refine mul_le_mul_of_nonneg_left ?_ (by norm_num)
        exact zpow_le_zpow_right₀ (by norm_num) x.scale_range.1
    _ ≤ (x.significand - x.below) * 2 ^ x.scale :=
        mul_le_mul_of_nonneg_right (by linarith) (by positivity)
    _ ≤ r := rounds.lower

theorem positive (rounds : x.Rounds r) (nonzero : x.isZero = false) : 0 < r :=
  lt_of_lt_of_le (by positivity) (rounds.least nonzero)

theorem greatest (rounds : x.Rounds r) : r < 2 ^ (53 + x.scale) := by
  have small : (x.significand : ℚ) + 1 ≤ 2 ^ (53 : ℤ) := by
    have bound := x.significand_lt
    have whole : x.significand + 1 ≤ 2 ^ 53 := by omega
    exact_mod_cast whole
  calc r ≤ (x.significand + 1 / 2) * 2 ^ x.scale := rounds.upper
    _ < 2 ^ (53 : ℤ) * 2 ^ x.scale :=
        mul_lt_mul_of_pos_right (by linarith) (by positivity)
    _ = 2 ^ (53 + x.scale) := by rw [zpow_add₀ (by norm_num)]

end Rounds

/-! ## The last place of a fraction -/

theorem scaled_positive (numerator : Nat) {denominator : Nat} (power : Int) (positive : 0 < denominator) :
    0 < (scaled numerator denominator power).2 := by
  unfold scaled
  split
  · exact positive
  · exact Nat.mul_pos positive (Nat.pow_pos (by norm_num))

theorem scaled_value (numerator denominator : Nat) (power : Int) :
    ((scaled numerator denominator power).1 : ℚ) / (scaled numerator denominator power).2 =
      numerator / denominator * 2 ^ power := by
  unfold scaled
  split
  · next nonneg =>
      obtain ⟨n, rfl⟩ := Int.eq_ofNat_of_zero_le nonneg
      simp only [Int.toNat_natCast, Nat.pow_eq, Nat.cast_mul, Nat.cast_pow, Nat.cast_ofNat,
        zpow_natCast]
      ring
  · next negative =>
      obtain ⟨n, same⟩ := Int.eq_ofNat_of_zero_le (show 0 ≤ -power by omega)
      have back : power = -(n : Int) := by omega
      subst back
      simp only [neg_neg, Int.toNat_natCast, Nat.pow_eq, Nat.cast_mul, Nat.cast_pow,
        Nat.cast_ofNat, zpow_neg, zpow_natCast]
      rw [div_mul_eq_div_div, div_eq_mul_inv (_ / _)]

def lastPlace (numerator denominator : Nat) : Int :=
  let guess : Int := (Nat.log2 numerator : Int) - (Nat.log2 denominator : Int) - 52
  let coarse := max guess (-1074)
  let probe := scaled numerator denominator (-coarse)
  if probe.1 / probe.2 < 0x10000000000000 then max (coarse - 1) (-1074) else coarse

theorem nearestFraction?_eq (negative : Bool) (numerator denominator : Nat) :
    nearestFraction? negative numerator denominator =
      let place := lastPlace numerator denominator
      let exact := scaled numerator denominator (-place)
      let rounded := roundHalfEven exact.1 exact.2
      if rounded = 0x20000000000000 then ofParts? negative 0x10000000000000 (place + 1)
      else ofParts? negative rounded place :=
  rfl

theorem fraction_range {numerator denominator : Nat} (some : 0 < numerator)
    (positive : 0 < denominator) :
    (2 : ℚ) ^ ((numerator.log2 : ℤ) - denominator.log2 - 1) < numerator / denominator ∧
      (numerator : ℚ) / denominator < 2 ^ ((numerator.log2 : ℤ) - denominator.log2 + 1) := by
  have above : (0 : ℚ) < denominator := by exact_mod_cast positive
  have numeratorLow : (2 : ℚ) ^ numerator.log2 ≤ numerator := by
    exact_mod_cast Nat.log2_self_le (by omega)
  have numeratorHigh : (numerator : ℚ) < 2 ^ (numerator.log2 + 1) := by
    exact_mod_cast Nat.lt_log2_self
  have denominatorLow : (2 : ℚ) ^ denominator.log2 ≤ denominator := by
    exact_mod_cast Nat.log2_self_le (by omega)
  have denominatorHigh : (denominator : ℚ) < 2 ^ (denominator.log2 + 1) := by
    exact_mod_cast Nat.lt_log2_self
  rw [lt_div_iff₀ above, div_lt_iff₀ above]
  constructor
  · calc (2 : ℚ) ^ ((numerator.log2 : ℤ) - denominator.log2 - 1) * denominator
        < 2 ^ ((numerator.log2 : ℤ) - denominator.log2 - 1) * 2 ^ (denominator.log2 + 1) :=
          mul_lt_mul_of_pos_left denominatorHigh (by positivity)
      _ = 2 ^ numerator.log2 := by
          rw [← zpow_natCast, ← zpow_natCast, ← zpow_add₀ (by norm_num)]
          congr 1
          push_cast
          ring
      _ ≤ numerator := numeratorLow
  · calc (numerator : ℚ) < 2 ^ (numerator.log2 + 1) := numeratorHigh
      _ = 2 ^ ((numerator.log2 : ℤ) - denominator.log2 + 1) * 2 ^ denominator.log2 := by
          rw [← zpow_natCast, ← zpow_natCast, ← zpow_add₀ (by norm_num)]
          congr 1
          push_cast
          ring
      _ ≤ 2 ^ ((numerator.log2 : ℤ) - denominator.log2 + 1) * denominator :=
          mul_le_mul_of_nonneg_left denominatorLow (by positivity)

/-- In its last place a fraction has no more than fifty-three binary digits, and no fewer unless
the place is the least there is. -/
structure IsLastPlace (r : ℚ) (place : Int) : Prop where
  inRange : -1074 ≤ place
  fits : r < 2 ^ (53 + place)
  full : place = -1074 ∨ (2 : ℚ) ^ (52 + place) ≤ r

theorem lastPlace_spec {numerator denominator : Nat} (some : 0 < numerator)
    (positive : 0 < denominator) :
    IsLastPlace (numerator / denominator) (lastPlace numerator denominator) := by
  obtain ⟨low, high⟩ := fraction_range some positive
  unfold lastPlace
  dsimp only
  set r : ℚ := numerator / denominator
  set length : Int := (Nat.log2 numerator : Int) - (Nat.log2 denominator : Int)
  set coarse : Int := max (length - 52) (-1074)
  have short : (scaled numerator denominator (-coarse)).1 /
      (scaled numerator denominator (-coarse)).2 < 0x10000000000000 ↔ r < 2 ^ (52 + coarse) := by
    have above := scaled_positive numerator (-coarse) positive
    have value := scaled_value numerator denominator (-coarse)
    rw [Nat.div_lt_iff_lt_mul above, ← Nat.cast_lt (α := ℚ), Nat.cast_mul,
      ← div_lt_iff₀ (by exact_mod_cast above), value, zpow_neg, mul_inv_lt_iff₀ (by positivity),
      zpow_add₀ (by norm_num)]
    norm_num
    rfl
  have monotone : ∀ {a b : Int}, a ≤ b → (2 : ℚ) ^ a ≤ 2 ^ b :=
    fun less => zpow_le_zpow_right₀ (by norm_num) less
  split
  · next fits =>
      rw [short] at fits
      refine ⟨by omega, ?_, ?_⟩
      · exact lt_of_lt_of_le fits (monotone (by omega))
      · by_cases least : coarse = -1074
        · left
          omega
        · right
          exact (monotone (by omega)).trans low.le
  · next long =>
      rw [short, not_lt] at long
      exact ⟨by omega, lt_of_lt_of_le high (monotone (by omega)), Or.inr long⟩

/-! ## Reading a fraction -/

theorem ofParts?_self (x : Binary64) : ofParts? x.negative x.significand x.scale = some x := by
  obtain ⟨negative, exponent, fraction⟩ := x
  have small := fraction.isLt
  by_cases subnormal : exponent.val = 0
  · have none : exponent = ⟨0, by decide⟩ := Fin.ext subnormal
    simp [ofParts?, significand, scale, none]
  · simp [ofParts?, significand, scale, subnormal]

theorem normal_of_scale {x : Binary64} (above : -1074 < x.scale) :
    1 < x.exponent.val ∧ x.significand = 0x10000000000000 + x.fraction.val := by
  unfold scale at above
  split at above
  · omega
  · next normal =>
      refine ⟨by omega, ?_⟩
      rw [significand, if_neg normal]

/-- A fraction that rounds to a number has its last place in the number's, or lies so little
below a power of two that it has one binary digit more. -/
theorem lastPlace_of_rounds {x : Binary64} {r : ℚ} {place : Int} (rounds : x.Rounds r)
    (last : IsLastPlace r place) :
    place = x.scale ∨
      (place + 1 = x.scale ∧ x.significand = 0x10000000000000 ∧
        IsNearest 0x20000000000000 (r / 2 ^ place)) := by
  have two : (1 : ℚ) < 2 := by norm_num
  rcases lt_trichotomy place x.scale with less | same | more
  · right
    obtain ⟨exponent, digits⟩ := normal_of_scale (lt_of_le_of_lt last.inRange less)
    have reach := x.below_le
    have unit : (0 : ℚ) < 2 ^ x.scale := by positivity
    have fits : r < 2 ^ (52 : ℤ) * 2 ^ x.scale := by
      rw [← zpow_add₀ (by norm_num)]
      exact lt_of_lt_of_le last.fits (zpow_le_zpow_right₀ two.le (by omega))
    have under : (x.significand : ℚ) - x.below < 2 ^ (52 : ℤ) :=
      lt_of_mul_lt_mul_right (lt_of_le_of_lt rounds.lower fits) unit.le
    have none : x.fraction.val = 0 := by
      by_contra some
      have one : (1 : ℚ) ≤ x.fraction.val := by exact_mod_cast Nat.one_le_iff_ne_zero.2 some
      rw [digits] at under
      norm_num at under
      linarith
    have quarter : x.below = 1 / 4 := by
      rw [below, if_pos ⟨none, exponent⟩]
    have power : x.significand = 0x10000000000000 := by rw [digits, none]
    have low := rounds.lower
    rw [power, quarter] at low
    have next : place + 1 = x.scale := by
      by_contra further
      have small : r < 2 ^ (51 : ℤ) * 2 ^ x.scale := by
        rw [← zpow_add₀ (by norm_num)]
        exact lt_of_lt_of_le last.fits (zpow_le_zpow_right₀ two.le (by omega))
      have half := lt_of_mul_lt_mul_right (lt_of_le_of_lt low small) unit.le
      norm_num at half
    refine ⟨next, power, ?_⟩
    have double : (2 : ℚ) ^ x.scale = 2 * 2 ^ place := by
      rw [← next, zpow_add₀ (by norm_num), zpow_one, mul_comm]
    have spot : (0 : ℚ) < 2 ^ place := by positivity
    rw [double] at low fits
    rw [IsNearest, if_pos (by norm_num), le_div_iff₀ spot, div_le_iff₀ spot]
    norm_num at low fits ⊢
    constructor <;> linarith
  · exact Or.inl same
  · exfalso
    have full : (2 : ℚ) ^ (52 + place) ≤ r := by
      rcases last.full with least | full
      · have bound := x.scale_range
        omega
      · exact full
    have reaches : (2 : ℚ) ^ (53 + x.scale) ≤ r :=
      le_trans (zpow_le_zpow_right₀ two.le (by omega)) full
    exact absurd rounds.greatest (not_lt.2 reaches)

/-- A fraction that rounds to a number is read as this number. -/
theorem nearestFraction?_of_rounds {x : Binary64} {numerator denominator : Nat}
    (some : 0 < numerator) (positive : 0 < denominator)
    (rounds : x.Rounds (numerator / denominator)) :
    nearestFraction? x.negative numerator denominator = .some x := by
  have last := lastPlace_spec some positive
  rw [nearestFraction?_eq]
  set place := lastPlace numerator denominator
  have above := scaled_positive numerator (-place) positive
  have value : ((scaled numerator denominator (-place)).1 : ℚ) /
      (scaled numerator denominator (-place)).2 = numerator / denominator / 2 ^ place := by
    rw [scaled_value, zpow_neg, div_eq_mul_inv (_ / _)]
  rcases lastPlace_of_rounds rounds last with same | ⟨next, power, near⟩
  · have rounded : roundHalfEven (scaled numerator denominator (-place)).1
        (scaled numerator denominator (-place)).2 = x.significand := by
      apply roundHalfEven_eq above
      rw [value, same]
      exact rounds.isNearest
    have noCarry : x.significand ≠ 0x20000000000000 := Nat.ne_of_lt x.significand_lt
    simp only [rounded, if_neg noCarry]
    rw [same, ofParts?_self]
  · have rounded : roundHalfEven (scaled numerator denominator (-place)).1
        (scaled numerator denominator (-place)).2 = 0x20000000000000 := by
      apply roundHalfEven_eq above
      rw [value]
      exact near
    simp only [rounded, if_pos]
    rw [next, ← power, ofParts?_self]

/-! ## Reading a decimal -/

theorem digitCount_spec {n : Nat} (positive : 0 < n) :
    10 ^ (digitCount n - 1) ≤ n ∧ n < 10 ^ digitCount n ∧ 1 ≤ digitCount n := by
  have count : digitCount n = (Nat.toDigits 10 n).length := if_neg (by omega)
  have some : 1 ≤ (Nat.toDigits 10 n).length := Nat.length_toDigits_pos
  rw [count]
  refine ⟨?_, ?_, some⟩
  · by_cases one : (Nat.toDigits 10 n).length = 1
    · rw [one]
      exact positive
    · have more : ¬ (Nat.toDigits 10 n).length ≤ (Nat.toDigits 10 n).length - 1 := by omega
      rw [Nat.length_toDigits_le_iff (by norm_num) (by omega)] at more
      exact Nat.le_of_not_lt more
  · exact (Nat.length_toDigits_le_iff (by norm_num) some).1 (Nat.le_refl _)

theorem decimal_range {digits : Nat} (power : Int) (positive : 0 < digits) :
    (10 : ℚ) ^ ((digitCount digits : Int) + power - 1) ≤ digits * 10 ^ power ∧
      (digits : ℚ) * 10 ^ power < 10 ^ ((digitCount digits : Int) + power) := by
  obtain ⟨low, high, some⟩ := digitCount_spec positive
  have unit : (0 : ℚ) < 10 ^ power := by positivity
  constructor
  · have least : (10 : ℚ) ^ ((digitCount digits : Int) - 1) ≤ digits := by
      rw [show (digitCount digits : Int) - 1 = ((digitCount digits - 1 : Nat) : Int) by omega,
        zpow_natCast]
      exact_mod_cast low
    rw [show (digitCount digits : Int) + power - 1 = ((digitCount digits : Int) - 1) + power by ring,
      zpow_add₀ (by norm_num)]
    exact mul_le_mul_of_nonneg_right least unit.le
  · have most : (digits : ℚ) < 10 ^ (digitCount digits : Int) := by
      rw [zpow_natCast]
      exact_mod_cast high
    rw [zpow_add₀ (by norm_num)]
    exact mul_lt_mul_of_pos_right most unit

/-- A decimal that rounds to a number other than zero is read as this number. -/
theorem nearestDecimal?_of_rounds {x : Binary64} {digits : Nat} {power : Int}
    (nonzero : x.isZero = false) (rounds : x.Rounds (digits * 10 ^ power)) :
    nearestDecimal? x.negative digits power = some x := by
  have some : 0 < digits := by
    by_contra none
    have zero : digits = 0 := by omega
    have positive := rounds.positive nonzero
    rw [zero] at positive
    norm_num at positive
  obtain ⟨low, high⟩ := decimal_range power some
  have notSmall : ¬ (digitCount digits : Int) + power < -400 := by
    intro small
    have under : (10 : ℚ) ^ ((digitCount digits : Int) + power) ≤ 2 ^ (-1075 : ℤ) :=
      ten_zpow_le_two_zpow (by omega) (by omega)
    linarith [rounds.least nonzero]
  have notLarge : ¬ 400 < (digitCount digits : Int) + power := by
    intro large
    have range := x.scale_range
    have larger : (2 : ℚ) ^ (53 + x.scale) ≤ 10 ^ ((digitCount digits : Int) + power - 1) :=
      two_zpow_le_ten_zpow (by omega) (by omega)
    linarith [rounds.greatest]
  unfold nearestDecimal?
  rw [if_neg (by omega), if_neg notSmall, if_neg notLarge]
  split
  · next nonneg =>
      apply nearestFraction?_of_rounds (Nat.mul_pos some (Nat.pow_pos (by norm_num))) one_pos
      obtain ⟨n, rfl⟩ := Int.eq_ofNat_of_zero_le nonneg
      simpa using rounds
  · next negative =>
      apply nearestFraction?_of_rounds some (Nat.pow_pos (by norm_num))
      obtain ⟨n, same⟩ := Int.eq_ofNat_of_zero_le (show 0 ≤ -power by omega)
      have back : power = -(n : Int) := by omega
      subst back
      simpa [div_eq_mul_inv] using rounds

theorem nearestDecimal?_zero (negative : Bool) (power : Int) :
    nearestDecimal? negative 0 power = some (zero negative) := by
  rw [nearestDecimal?, if_pos rfl]

theorem eq_zero_of_isZero {x : Binary64} (none : x.isZero = true) : x = zero x.negative := by
  obtain ⟨negative, exponent, fraction⟩ := x
  simp only [isZero, significand, beq_iff_eq] at none
  split at none
  · next subnormal => simp [zero, Fin.ext_iff, subnormal, none]
  · omega

end HolderBond.Binary64
