/-!
# Finite binary floating-point numbers of sixty-four bits

A number is kept as its sign, its biased exponent and its fraction, so that every value is
finite and equality is equality of representations.  Rounding a decimal to the nearest
number is done in exact integer arithmetic, a tie going to the even significand.
-/

set_option autoImplicit false

namespace HolderBond

/-- A finite number; the exponent 0 marks zero and the subnormal numbers. -/
structure Binary64 where
  negative : Bool
  exponent : Fin 2047
  fraction : Fin 0x10000000000000
  deriving DecidableEq, Repr

namespace Binary64

def zero (negative : Bool) : Binary64 :=
  ⟨negative, ⟨0, by decide⟩, ⟨0, by decide⟩⟩

def significand (x : Binary64) : Nat :=
  if x.exponent.val = 0 then x.fraction.val else 0x10000000000000 + x.fraction.val

def scale (x : Binary64) : Int :=
  if x.exponent.val = 0 then -1074 else (x.exponent.val : Int) - 1075

def isZero (x : Binary64) : Bool :=
  x.significand == 0

/-- Numeric equality of finite numbers: the two zeros are equal. -/
def same (x y : Binary64) : Bool :=
  x == y || (x.isZero && y.isZero)

def ofParts? (negative : Bool) (significand : Nat) (scale : Int) : Option Binary64 :=
  if small : significand < 0x10000000000000 then
    if scale = -1074 then some ⟨negative, ⟨0, by decide⟩, ⟨significand, small⟩⟩ else none
  else if normal : significand - 0x10000000000000 < 0x10000000000000 ∧ (scale + 1075).toNat < 2047 then
    some ⟨negative, ⟨(scale + 1075).toNat, normal.2⟩, ⟨significand - 0x10000000000000, normal.1⟩⟩
  else none

def scaled (numerator denominator : Nat) (power : Int) : Nat × Nat :=
  if 0 ≤ power then (numerator * Nat.pow 2 power.toNat, denominator)
  else (numerator, denominator * Nat.pow 2 (-power).toNat)

/-- The nearest integer to a fraction, a tie going to the even one. -/
def roundHalfEven (numerator denominator : Nat) : Nat :=
  let quotient := numerator / denominator
  let twice := 2 * (numerator % denominator)
  if twice < denominator then quotient
  else if denominator < twice then quotient + 1
  else quotient + quotient % 2

def nearestFraction? (negative : Bool) (numerator denominator : Nat) : Option Binary64 :=
  let guess : Int := (Nat.log2 numerator : Int) - (Nat.log2 denominator : Int) - 52
  let coarse := max guess (-1074)
  let probe := scaled numerator denominator (-coarse)
  let scale := if probe.1 / probe.2 < 0x10000000000000 then max (coarse - 1) (-1074) else coarse
  let exact := scaled numerator denominator (-scale)
  let rounded := roundHalfEven exact.1 exact.2
  if rounded = 0x20000000000000 then ofParts? negative 0x10000000000000 (scale + 1)
  else ofParts? negative rounded scale

def digitCount (n : Nat) : Nat :=
  if n = 0 then 0 else (Nat.toDigits 10 n).length

/-- The number nearest to `digits * 10 ^ power`, or nothing beyond the largest.  Magnitudes
far outside the range are settled by their digit count alone. -/
def nearestDecimal? (negative : Bool) (digits : Nat) (power : Int) : Option Binary64 :=
  let magnitude := (digitCount digits : Int) + power
  if digits = 0 then some (zero negative)
  else if magnitude < -400 then some (zero negative)
  else if 400 < magnitude then none
  else if 0 ≤ power then nearestFraction? negative (digits * Nat.pow 10 power.toNat) 1
  else nearestFraction? negative digits (Nat.pow 10 (-power).toNat)

end Binary64

end HolderBond
