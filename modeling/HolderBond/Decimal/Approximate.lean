import HolderBond.Decimal.Binary64

/-!
# Decimals read by arithmetic

A quick way to read a decimal takes its digits as a number and multiplies or divides this by a
power of ten.  Digits, power and result are rounded one by one, so the result is close to the
decimal but need not be the number nearest to it.
-/

set_option autoImplicit false

namespace HolderBond.Binary64

/-- The number nearest to a fraction that may be zero, or nothing beyond the largest. -/
def ofFraction? (fraction : Nat × Nat) : Option Binary64 :=
  if fraction.1 = 0 then some (zero false) else nearestFraction? false fraction.1 fraction.2

def times? (x y : Binary64) : Option Binary64 :=
  ofFraction? (scaled (x.significand * y.significand) 1 (x.scale + y.scale))

def over? (x y : Binary64) : Option Binary64 :=
  ofFraction? (scaled x.significand y.significand (x.scale - y.scale))

/-- The greatest power of ten that a number comes near to. -/
def lastPower : Nat := 308

def tenTo (power : Nat) : Binary64 :=
  (nearestDecimal? false 1 power).getD (zero false)

/-- A magnitude divided by a power of ten, taken apart into so many greatest powers as it takes;
what has become zero stays so. -/
def overTenTo? : Nat → Binary64 → Nat → Option Binary64
  | 0, x, power => x.over? (tenTo power)
  | steps + 1, x, power =>
      if power ≤ lastPower then x.over? (tenTo power)
      else if x.isZero then some x
      else do
        let less ← x.over? (tenTo lastPower)
        overTenTo? steps less (power - lastPower)

def timesTenTo? (x : Binary64) (power : Int) : Option Binary64 :=
  if x.isZero then some x
  else if lastPower < power then none
  else if 0 ≤ power then x.times? (tenTo power.toNat)
  else overTenTo? ((-power).toNat / lastPower) x (-power).toNat

/-- About `digits * 10 ^ power`, or nothing beyond the largest number. -/
def approximate? (negative : Bool) (digits : Nat) (power : Int) : Option Binary64 := do
  let whole ← ofFraction? (digits, 1)
  let magnitude ← whole.timesTenTo? power
  return { magnitude with negative }

end HolderBond.Binary64
