import HolderBond.Decimal.Approximate
import HolderBond.Proofs.Decimal.Nearest

/-!
# Where reading by arithmetic is exact

A whole number of at most fifty-three binary digits is a number without rounding, and so is a
power of ten up to the twenty-second.  A product or quotient of two such numbers is rounded once,
so a decimal made of them is read as the number that it is nearest to.
-/

set_option autoImplicit false

namespace HolderBond.Binary64

def value (x : Binary64) : ℚ :=
  x.significand * 2 ^ x.scale

def magnitude (x : Binary64) : Binary64 :=
  { x with negative := false }

theorem Rounds.magnitude {x : Binary64} {r : ℚ} (rounds : x.Rounds r) : x.magnitude.Rounds r :=
  rounds

theorem below_pos (x : Binary64) : 0 < x.below := by
  unfold below
  split <;> norm_num

theorem rounds_value (x : Binary64) : x.Rounds x.value := by
  have unit : (0 : ℚ) < 2 ^ x.scale := by positivity
  have reach := x.below_pos
  apply Rounds.of_lt
  · exact mul_lt_mul_of_pos_right (by linarith) unit
  · exact mul_lt_mul_of_pos_right (by linarith) unit

/-! ## Rounded operations -/

theorem ofFraction?_of_rounds {x : Binary64} {fraction : Nat × Nat} (positive : 0 < fraction.2)
    (nonzero : x.isZero = false) (rounds : x.Rounds (fraction.1 / fraction.2)) :
    ofFraction? fraction = some x.magnitude := by
  have some : 0 < fraction.1 := by
    by_contra none
    have above := rounds.positive nonzero
    rw [show fraction.1 = 0 by omega] at above
    norm_num at above
  rw [ofFraction?, if_neg (by omega)]
  have read := nearestFraction?_of_rounds some positive rounds.magnitude
  exact read

theorem times?_of_rounds {x y z : Binary64} (nonzero : z.isZero = false)
    (rounds : z.Rounds (x.value * y.value)) : x.times? y = some z.magnitude := by
  apply ofFraction?_of_rounds (scaled_positive _ _ one_pos) nonzero
  rw [scaled_value, zpow_add₀ (by norm_num)]
  convert rounds using 1
  rw [value, value]
  push_cast
  ring

theorem over?_of_rounds {x y z : Binary64} (divisor : y.isZero = false)
    (nonzero : z.isZero = false) (rounds : z.Rounds (x.value / y.value)) :
    x.over? y = some z.magnitude := by
  have positive : 0 < y.significand := by
    simp only [isZero, beq_eq_false_iff_ne] at divisor
    omega
  apply ofFraction?_of_rounds (scaled_positive _ _ positive) nonzero
  rw [scaled_value, zpow_sub₀ (by norm_num)]
  convert rounds using 1
  rw [value, value, div_mul_div_comm]

/-! ## Numbers without rounding -/

/-- A whole number of at most fifty-three binary digits, perhaps doubled a few times. -/
theorem exists_value_eq {n : Nat} (some : 0 < n) (small : n < 0x20000000000000) {doubled : Nat}
    (few : doubled ≤ 22) :
    ∃ x : Binary64, x.isZero = false ∧ x.negative = false ∧ x.value = n * 2 ^ doubled := by
  have least := Nat.log2_self_le (show n ≠ 0 by omega)
  have most := Nat.lt_log2_self (n := n)
  have length : n.log2 ≤ 52 := by
    by_contra long
    have power : (2 : Nat) ^ 53 ≤ 2 ^ n.log2 := Nat.pow_le_pow_right (by norm_num) (by omega)
    omega
  -- The first binary digit is moved to its place.
  set up := 52 - n.log2
  have reaches : 2 ^ 52 ≤ n * 2 ^ up := by
    calc 2 ^ 52 = 2 ^ n.log2 * 2 ^ up := by rw [← pow_add]; congr 1; omega
      _ ≤ n * 2 ^ up := Nat.mul_le_mul_right _ least
  have fits : n * 2 ^ up < 2 ^ 53 := by
    calc n * 2 ^ up < 2 ^ (n.log2 + 1) * 2 ^ up := Nat.mul_lt_mul_of_pos_right most (by positivity)
      _ = 2 ^ 53 := by rw [← pow_add]; congr 1; omega
  refine ⟨⟨false, ⟨n.log2 + doubled + 1023, by omega⟩,
    ⟨n * 2 ^ up - 0x10000000000000, by omega⟩⟩, ?_, rfl, ?_⟩
  · simp [isZero, significand]
  · have whole : 0x10000000000000 + (n * 2 ^ up - 0x10000000000000) = n * 2 ^ up := by omega
    have place : (up : ℤ) + (((n.log2 + doubled + 1023 : Nat) : ℤ) - 1075) = doubled := by omega
    simp only [value, significand, scale]
    rw [if_neg (by omega), if_neg (by omega), whole, Nat.cast_mul, Nat.cast_pow, mul_assoc,
      ← zpow_natCast, Nat.cast_ofNat, ← zpow_add₀ (by norm_num), place, zpow_natCast]

theorem tenTo_value {power : Nat} (near : power ≤ 22) :
    (tenTo power).isZero = false ∧ (tenTo power).value = 10 ^ power := by
  have small : 5 ^ power < 0x20000000000000 :=
    Nat.lt_of_le_of_lt (Nat.pow_le_pow_right (by norm_num) near) (by norm_num)
  obtain ⟨x, nonzero, unsigned, value⟩ := exists_value_eq (Nat.pow_pos (by norm_num)) small near
  have tens : x.value = 10 ^ power := by
    rw [value, Nat.cast_pow, ← mul_pow]
    norm_num
  have rounds : x.Rounds ((1 : Nat) * 10 ^ (power : ℤ)) := by
    rw [Nat.cast_one, one_mul, zpow_natCast, ← tens]
    exact x.rounds_value
  have read := nearestDecimal?_of_rounds nonzero rounds
  rw [unsigned] at read
  rw [tenTo, read]
  exact ⟨nonzero, tens⟩

/-! ## Decimals -/

theorem timesTenTo?_of_rounds {x z : Binary64} {power : Int} (some : x.isZero = false)
    (near : power.natAbs ≤ 22) (nonzero : z.isZero = false)
    (rounds : z.Rounds (x.value * 10 ^ power)) : x.timesTenTo? power = .some z.magnitude := by
  rw [timesTenTo?, if_neg (by simp [some]), if_neg (by simp [lastPower]; omega)]
  split
  · next nonneg =>
      obtain ⟨n, rfl⟩ := Int.eq_ofNat_of_zero_le nonneg
      have close : n ≤ 22 := by omega
      obtain ⟨-, tens⟩ := tenTo_value close
      apply times?_of_rounds nonzero
      rw [Int.toNat_natCast, tens, ← zpow_natCast]
      exact rounds
  · next negative =>
      obtain ⟨n, same⟩ := Int.eq_ofNat_of_zero_le (show 0 ≤ -power by omega)
      have close : n ≤ 22 := by omega
      obtain ⟨divisor, tens⟩ := tenTo_value close
      have once : n / lastPower = 0 := Nat.div_eq_of_lt (by rw [lastPower]; omega)
      rw [same, Int.toNat_natCast, once]
      apply over?_of_rounds divisor nonzero
      rw [tens, ← zpow_natCast, div_eq_mul_inv, ← zpow_neg, ← same, neg_neg]
      exact rounds

/-- A decimal of few digits that is not far from the point is read as the number it rounds to. -/
theorem approximate?_of_rounds {x : Binary64} {digits : Nat} {power : Int}
    (nonzero : x.isZero = false) (small : digits < 0x20000000000000) (near : power.natAbs ≤ 22)
    (rounds : x.Rounds (digits * 10 ^ power)) :
    approximate? x.negative digits power = some x := by
  have some : 0 < digits := by
    by_contra none
    have above := rounds.positive nonzero
    rw [show digits = 0 by omega] at above
    norm_num at above
  obtain ⟨whole, wholeNonzero, -, wholeValue⟩ :=
    exists_value_eq some small (Nat.zero_le 22)
  rw [pow_zero, mul_one] at wholeValue
  have read : ofFraction? (digits, 1) = .some whole.magnitude := by
    apply ofFraction?_of_rounds one_pos wholeNonzero
    rw [Nat.cast_one, div_one, ← wholeValue]
    exact whole.rounds_value
  have moved : whole.magnitude.timesTenTo? power = .some x.magnitude := by
    have nonzeroMagnitude : whole.magnitude.isZero = false := wholeNonzero
    rw [← wholeValue] at rounds
    exact timesTenTo?_of_rounds nonzeroMagnitude near nonzero rounds
  rw [approximate?, read, Option.bind_eq_bind, Option.bind_some, moved]
  rfl

theorem approximate?_zero (negative : Bool) (power : Int) :
    approximate? negative 0 power = some (zero negative) :=
  rfl

end HolderBond.Binary64
