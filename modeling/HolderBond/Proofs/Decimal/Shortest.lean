import HolderBond.Decimal.Shortest
import HolderBond.Proofs.Decimal.Nearest

/-!
# Shortest decimals round to their number

Seventeen digits always suffice: on the grid of the seventeenth digit, a neighbour of the number
lies nearer than half way to the next number.  So the search ends with a decimal that rounds to
the number, and taking its trailing zeros away does not change what it stands for.
-/

set_option autoImplicit false

namespace HolderBond.Shortest

/-! ## Intervals as fractions -/

theorem ten_zpow (power : ℤ) :
    (10 : ℚ) ^ power = 10 ^ power.toNat / 10 ^ (-power).toNat := by
  rcases le_total 0 power with nonneg | nonpos
  · obtain ⟨n, rfl⟩ := Int.eq_ofNat_of_zero_le nonneg
    simp
  · obtain ⟨n, same⟩ := Int.eq_ofNat_of_zero_le (show 0 ≤ -power by omega)
    have back : power = -(n : Int) := by omega
    subst back
    simp

theorem fraction_le_decimal (a c : Nat) {d : Nat} (power : Int) (positive : 0 < d) :
    (a : ℚ) / d ≤ c * 10 ^ power ↔
      a * Nat.pow 10 (-power).toNat ≤ c * d * Nat.pow 10 power.toNat := by
  have above : (0 : ℚ) < d := by exact_mod_cast positive
  rw [ten_zpow, mul_div_assoc', div_le_div_iff₀ above (by positivity), ← Nat.cast_le (α := ℚ)]
  simp only [Nat.pow_eq]
  push_cast
  rw [mul_right_comm]

theorem decimal_le_fraction (a c : Nat) {d : Nat} (power : Int) (positive : 0 < d) :
    (c : ℚ) * 10 ^ power ≤ a / d ↔
      c * d * Nat.pow 10 power.toNat ≤ a * Nat.pow 10 (-power).toNat := by
  have above : (0 : ℚ) < d := by exact_mod_cast positive
  rw [ten_zpow, mul_div_assoc', div_le_div_iff₀ (by positivity) above, ← Nat.cast_le (α := ℚ)]
  simp only [Nat.pow_eq]
  push_cast
  rw [mul_right_comm]

def Interval.floorOn (i : Interval) (power : Int) : Nat :=
  i.value * Nat.pow 10 (-power).toNat / (i.denominator * Nat.pow 10 power.toNat)

theorem Interval.onGrid?_eq (i : Interval) (power : Int) :
    i.onGrid? power =
      match i.holds (i.floorOn power) power, i.holds (i.floorOn power + 1) power with
      | false, false => none
      | true, false => some (i.floorOn power)
      | false, true => some (i.floorOn power + 1)
      | true, true =>
          if i.distance (i.floorOn power) power < i.distance (i.floorOn power + 1) power then
            some (i.floorOn power)
          else if i.distance (i.floorOn power + 1) power < i.distance (i.floorOn power) power then
            some (i.floorOn power + 1)
          else some (i.floorOn power + i.floorOn power % 2) :=
  rfl

/-- What an interval of a number other than zero says, in fractions. -/
structure Describes (i : Interval) (x : Binary64) : Prop where
  positive : 0 < i.denominator
  low : (i.low : ℚ) / i.denominator = (x.significand - x.below) * 2 ^ x.scale
  value : (i.value : ℚ) / i.denominator = x.significand * 2 ^ x.scale
  high : (i.high : ℚ) / i.denominator = (x.significand + 1 / 2) * 2 ^ x.scale
  closed : i.closed = true ↔ x.significand % 2 = 0

theorem interval_describes {x : Binary64} (nonzero : x.isZero = false) :
    Describes (interval x) x := by
  have positive : 1 ≤ x.significand := by
    simp only [Binary64.isZero, beq_eq_false_iff_ne] at nonzero
    omega
  have quarter : (2 : ℚ) ^ x.scale = 4 * 2 ^ (x.scale - 2) := by
    rw [zpow_sub₀ (by norm_num)]
    norm_num
    ring
  have unit : (((if 0 ≤ x.scale - 2 then Nat.pow 2 (x.scale - 2).toNat else 1 : Nat) : ℚ) /
      (if 0 ≤ x.scale - 2 then 1 else Nat.pow 2 (-(x.scale - 2)).toNat : Nat)) =
      2 ^ (x.scale - 2) := by
    split
    · next nonneg =>
        obtain ⟨n, same⟩ := Int.eq_ofNat_of_zero_le nonneg
        simp [same]
    · next negative =>
        obtain ⟨n, same⟩ := Int.eq_ofNat_of_zero_le (show 0 ≤ -(x.scale - 2) by omega)
        have back : x.scale - 2 = -(n : Int) := by omega
        simp [back]
  have reach : ((4 * x.significand - (if x.fraction.val = 0 ∧ 1 < x.exponent.val then 1 else 2) :
      Nat) : ℚ) = 4 * (x.significand - x.below) := by
    unfold Binary64.below
    split
    · rw [Nat.cast_sub (by omega)]
      push_cast
      ring
    · rw [Nat.cast_sub (by omega)]
      push_cast
      ring
  constructor
  · simp only [interval]
    split
    · exact one_pos
    · exact Nat.pow_pos (by norm_num)
  · simp only [interval]
    rw [Nat.cast_mul, mul_div_assoc, unit, reach, quarter]
    ring
  · simp only [interval]
    rw [Nat.cast_mul, mul_div_assoc, unit, quarter]
    push_cast
    ring
  · simp only [interval]
    rw [Nat.cast_mul, mul_div_assoc, unit, quarter]
    push_cast
    ring
  · simp [interval]

namespace Describes

variable {i : Interval} {x : Binary64}

/-- The candidates of an interval are the decimals that round to the number. -/
theorem holds_iff (describes : Describes i x) (candidate : Nat) (power : Int) :
    i.holds candidate power = true ↔ x.Rounds (candidate * 10 ^ power) := by
  have low := fraction_le_decimal i.low candidate power describes.positive
  have high := decimal_le_fraction i.high candidate power describes.positive
  have strictLow := decimal_le_fraction i.low candidate power describes.positive
  have strictHigh := fraction_le_decimal i.high candidate power describes.positive
  rw [describes.low] at low strictLow
  rw [describes.high] at high strictHigh
  unfold Interval.holds Binary64.Rounds
  by_cases even : x.significand % 2 = 0
  · rw [describes.closed.2 even, if_pos even, low, high]
    simp
  · have odd : i.closed = false := by
      rw [← Bool.not_eq_true, describes.closed]
      exact even
    rw [odd, if_neg even, ← not_le, ← not_le, strictLow, strictHigh]
    simp

theorem reaches_iff (describes : Describes i x) (power : Int) :
    i.reaches power = true ↔ (10 : ℚ) ^ power ≤ x.significand * 2 ^ x.scale := by
  have compare := decimal_le_fraction i.value 1 power describes.positive
  rw [describes.value, Nat.cast_one, one_mul] at compare
  rw [compare, one_mul]
  simp [Interval.reaches]

/-! ## Neighbours on a grid -/

theorem floorOn_le (describes : Describes i x) (power : Int) :
    (i.floorOn power : ℚ) * 10 ^ power ≤ x.significand * 2 ^ x.scale := by
  rw [← describes.value, decimal_le_fraction _ _ _ describes.positive, mul_assoc]
  exact Nat.div_mul_le_self _ _

theorem le_floorOn_succ (describes : Describes i x) (power : Int) :
    (x.significand : ℚ) * 2 ^ x.scale ≤ (i.floorOn power + 1 : Nat) * 10 ^ power := by
  have above : 0 < i.denominator * Nat.pow 10 power.toNat :=
    Nat.mul_pos describes.positive (Nat.pow_pos (by norm_num))
  rw [← describes.value, fraction_le_decimal _ _ _ describes.positive, mul_assoc, mul_comm (_ + 1)]
  exact (Nat.lt_mul_div_succ _ above).le

theorem rounds_of_onGrid? (describes : Describes i x) {power : Int} {candidate : Nat}
    (chosen : i.onGrid? power = some candidate) : x.Rounds (candidate * 10 ^ power) := by
  rw [← describes.holds_iff]
  rw [Interval.onGrid?_eq] at chosen
  split at chosen
  · cases chosen
  · next low _ =>
      cases chosen
      exact low
  · next _ high =>
      cases chosen
      exact high
  · next low high =>
      split at chosen
      · cases chosen
        exact low
      split at chosen
      · cases chosen
        exact high
      · cases chosen
        rcases Nat.mod_two_eq_zero_or_one (i.floorOn power) with even | odd
        · rw [even]
          exact low
        · rw [odd]
          exact high

theorem onGrid?_isSome (describes : Describes i x) {power : Int}
    (either : x.Rounds (i.floorOn power * 10 ^ power) ∨
      x.Rounds ((i.floorOn power + 1 : Nat) * 10 ^ power)) : (i.onGrid? power).isSome = true := by
  rw [← describes.holds_iff, ← describes.holds_iff] at either
  rw [Interval.onGrid?_eq]
  split
  · next low high =>
      rw [low, high] at either
      simp at either
  · rfl
  · rfl
  · split
    · rfl
    split <;> rfl

end Describes

/-! ## Seventeen digits suffice -/

/-- Of two neighbours on a grid of the seventeenth digit, one rounds to the number.  Where the
interval is shorter below, the grid is finer than half a place, and the upper one does. -/
theorem rounds_neighbour {x : Binary64} {low high step : ℚ} (lowLe : low ≤ x.significand * 2 ^ x.scale)
    (leHigh : x.significand * 2 ^ x.scale ≤ high) (apart : high = low + step)
    (fine : 10 ^ 16 * step ≤ x.significand * 2 ^ x.scale) : x.Rounds low ∨ x.Rounds high := by
  have unit : (0 : ℚ) < 2 ^ x.scale := by positivity
  -- At a power of two the numbers below lie twice as close as those above.
  by_cases power : x.fraction.val = 0 ∧ 1 < x.exponent.val
  · right
    have quarter : x.below = 1 / 4 := if_pos power
    have digits : (x.significand : ℚ) = 2 ^ 52 := by
      have normal : ¬ x.exponent.val = 0 := by omega
      rw [Binary64.significand, if_neg normal, power.1]
      norm_num
    rw [digits] at lowLe leHigh fine
    apply Binary64.Rounds.of_lt
    · rw [quarter, digits]
      linarith
    · rw [digits]
      linarith
  · have half : x.below = 1 / 2 := if_neg power
    have digits : (x.significand : ℚ) * 2 ^ x.scale ≤ 2 ^ 53 * 2 ^ x.scale := by
      refine mul_le_mul_of_nonneg_right ?_ unit.le
      exact_mod_cast x.significand_lt.le
    by_cases near : (x.significand - 1 / 2) * 2 ^ x.scale < low
    · left
      apply Binary64.Rounds.of_lt
      · rw [half]
        exact near
      · linarith
    · right
      apply Binary64.Rounds.of_lt
      · rw [half]
        linarith
      · linarith

/-! ## The search -/

theorem leading_reaches {i : Interval} (steps : Nat) (top : Int)
    (bottom : i.reaches (top - steps) = true) : i.reaches (i.leading steps top) = true := by
  induction steps generalizing top with
  | zero => simpa [Interval.leading] using bottom
  | succ steps ih =>
      unfold Interval.leading
      split
      · next reached => exact reached
      · apply ih
        rw [show top - 1 - (steps : Int) = top - ((steps + 1 : Nat) : Int) by push_cast; ring]
        exact bottom

theorem estimate_reaches {x : Binary64} (nonzero : x.isZero = false) :
    (10 : ℚ) ^ (estimate x - 4) ≤ x.significand * 2 ^ x.scale := by
  have some : x.significand ≠ 0 := by
    simpa [Binary64.isZero] using nonzero
  have bits : (2 : ℚ) ^ (x.significand.log2 : ℤ) ≤ x.significand := by
    rw [zpow_natCast]
    exact_mod_cast Nat.log2_self_le some
  have short : x.significand.log2 < 53 := (Nat.log2_lt some).2 x.significand_lt
  have range := x.scale_range
  calc (10 : ℚ) ^ (estimate x - 4) ≤ 2 ^ ((x.significand.log2 : ℤ) + x.scale) := by
        unfold estimate
        apply Binary64.ten_zpow_le_two_zpow <;> omega
    _ = 2 ^ (x.significand.log2 : ℤ) * 2 ^ x.scale := zpow_add₀ (by norm_num) _ _
    _ ≤ x.significand * 2 ^ x.scale := mul_le_mul_of_nonneg_right bits (by positivity)

/-- The search ends with a decimal that rounds to the number, if some grid it tries has one. -/
theorem search_rounds {i : Interval} {x : Binary64} (describes : Describes i x) (leading : Int)
    (steps count : Nat)
    (hit : ∃ k < steps, (i.onGrid? (leading - ((count + k : Nat) : Int) + 1)).isSome = true) :
    x.Rounds ((i.search leading steps count).1 * 10 ^ (i.search leading steps count).2) := by
  induction steps generalizing count with
  | zero =>
      obtain ⟨k, less, _⟩ := hit
      omega
  | succ steps ih =>
      unfold Interval.search
      dsimp only
      cases chosen : i.onGrid? (leading - count + 1) with
      | some digits => exact describes.rounds_of_onGrid? chosen
      | none =>
          apply ih
          obtain ⟨k, less, found⟩ := hit
          cases k with
          | zero =>
              rw [Nat.add_zero, chosen] at found
              cases found
          | succ k =>
              refine ⟨k, by omega, ?_⟩
              rw [show count + 1 + k = count + (k + 1) by omega]
              exact found

/-- The digits found for a number round to it. -/
theorem digits_rounds {x : Binary64} (nonzero : x.isZero = false) :
    x.Rounds ((digits x).1 * 10 ^ (digits x).2) := by
  have describes := interval_describes nonzero
  have reached : (interval x).reaches ((interval x).leading 4 (estimate x)) = true := by
    apply leading_reaches
    rw [describes.reaches_iff]
    exact estimate_reaches nonzero
  rw [describes.reaches_iff] at reached
  set leading := (interval x).leading 4 (estimate x)
  apply search_rounds describes
  -- Coarser grids may miss; the last one cannot.
  refine ⟨16, by norm_num, ?_⟩
  apply describes.onGrid?_isSome
  set power : Int := leading - ((1 + 16 : Nat) : Int) + 1
  have apart : (((interval x).floorOn power + 1 : Nat) : ℚ) * 10 ^ power =
      (interval x).floorOn power * 10 ^ power + 10 ^ power := by
    push_cast
    ring
  apply rounds_neighbour (describes.floorOn_le _) (describes.le_floorOn_succ _) apart
  · refine le_trans (le_of_eq ?_) reached
    rw [← zpow_natCast, ← zpow_add₀ (by norm_num)]
    congr 1
    push_cast
    ring

/-! ## Digits as text -/

/-- Digits that round to a number; the first, which is no zero, has the decimal exponent `e`. -/
structure Spells (cs : List Char) (e : Int) (x : Binary64) : Prop where
  digits : ∀ c ∈ cs, c.isDigit = true
  leading : ∃ c rest, cs = c :: rest ∧ c ≠ '0'
  rounds : x.Rounds (Nat.ofDigitChars 10 cs 0 * 10 ^ (e + 1 - cs.length))

theorem toDigits_leading {n : Nat} (positive : 0 < n) :
    ∃ c rest, Nat.toDigits 10 n = c :: rest ∧ c ≠ '0' := by
  induction n using Nat.strongRecOn with
  | ind n ih =>
      rw [Nat.toDigits_eq_if (by norm_num)]
      split
      · refine ⟨n.digitChar, [], rfl, ?_⟩
        rw [ne_eq, Nat.digitChar_eq_zero]
        omega
      · obtain ⟨c, rest, same, nonzero⟩ := ih (n / 10) (by omega) (by omega)
        refine ⟨c, rest ++ [(n % 10).digitChar], ?_, nonzero⟩
        rw [same]
        rfl

theorem exists_zeros (cs : List Char) :
    ∃ count, cs = (cs.reverse.dropWhile (· == '0')).reverse ++ List.replicate count '0' := by
  refine ⟨(cs.reverse.takeWhile (· == '0')).length, ?_⟩
  have zeros : cs.reverse.takeWhile (· == '0') =
      List.replicate (cs.reverse.takeWhile (· == '0')).length '0' := by
    apply List.eq_replicate_of_mem
    intro c member
    have zero := List.all_eq_true.1 List.all_takeWhile c member
    exact eq_of_beq zero
  rw [← List.reverse_replicate, ← zeros, ← List.reverse_append, List.takeWhile_append_dropWhile,
    List.reverse_reverse]

theorem normalized_spells {x : Binary64} (nonzero : x.isZero = false) :
    Spells (normalized x).1 (normalized x).2 x := by
  have rounds := digits_rounds nonzero
  have positive : 0 < (digits x).1 := by
    by_contra none
    have above := rounds.positive nonzero
    rw [show (digits x).1 = 0 by omega] at above
    norm_num at above
  have isDigit : ∀ c ∈ Nat.toDigits 10 (digits x).1, c.isDigit = true :=
    fun c member => Nat.isDigit_of_mem_toDigits (by norm_num) (by norm_num) member
  obtain ⟨first, others, leading, noZero⟩ := toDigits_leading positive
  have value : Nat.ofDigitChars 10 (Nat.toDigits 10 (digits x).1) 0 = (digits x).1 :=
    Nat.ofDigitChars_ten_toDigits
  obtain ⟨count, split⟩ := exists_zeros (Nat.toDigits 10 (digits x).1)
  simp only [normalized]
  set cs := Nat.toDigits 10 (digits x).1
  set kept := (cs.reverse.dropWhile (· == '0')).reverse
  constructor
  · intro c member
    apply isDigit
    rw [split]
    exact List.mem_append_left _ member
  · cases start : kept with
    | nil =>
        exfalso
        rw [start, leading, List.nil_append] at split
        have zero : first ∈ List.replicate count '0' := by
          rw [← split]
          exact List.mem_cons_self
        exact noZero (List.eq_of_mem_replicate zero)
    | cons c rest =>
        rw [start, leading, List.cons_append, List.cons.injEq] at split
        exact ⟨c, rest, rfl, split.1 ▸ noZero⟩
  · have length : (cs.length : ℤ) = kept.length + count := by
      have counted := congrArg List.length split
      rw [List.length_append, List.length_replicate] at counted
      exact_mod_cast counted
    have whole : (Nat.ofDigitChars 10 kept 0 : ℚ) * 10 ^ count = (digits x).1 := by
      rw [split, Nat.ofDigitChars_append, Nat.ofDigitChars_replicate_zero] at value
      rw [← value]
      push_cast
      ring
    have same : (Nat.ofDigitChars 10 kept 0 : ℚ) *
        10 ^ ((digits x).2 + cs.length - 1 + 1 - kept.length) = (digits x).1 * 10 ^ (digits x).2 := by
      rw [← whole, mul_assoc, ← zpow_natCast, ← zpow_add₀ (by norm_num), length]
      congr 2
      ring
    rw [same]
    exact rounds

end HolderBond.Shortest
