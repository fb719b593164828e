import HolderBond.Decimal.Binary64

/-!
# Shortest decimals

The decimal with the fewest digits among those that read back as a given number, and the
nearest of these; a tie goes to the even digit.  How the digits are laid out as text is a
separate record.
-/

set_option autoImplicit false

namespace HolderBond.Shortest

/-- The reals that read back as one positive number, as fractions over one denominator. -/
structure Interval where
  low : Nat
  value : Nat
  high : Nat
  denominator : Nat
  closed : Bool

/-- The interval of a number's magnitude: half way to each neighbour, the ends belonging to
it when its significand is even. -/
def interval (x : Binary64) : Interval :=
  let m := x.significand
  let below := if x.fraction.val = 0 ∧ 1 < x.exponent.val then 1 else 2
  let power := x.scale - 2
  let up := if 0 ≤ power then Nat.pow 2 power.toNat else 1
  let down := if 0 ≤ power then 1 else Nat.pow 2 (-power).toNat
  { low := (4 * m - below) * up, value := 4 * m * up, high := (4 * m + 2) * up
    denominator := down, closed := m % 2 == 0 }

def Interval.holds (i : Interval) (candidate : Nat) (power : Int) : Bool :=
  let left := candidate * i.denominator * Nat.pow 10 power.toNat
  let right := Nat.pow 10 (-power).toNat
  if i.closed then i.low * right ≤ left && left ≤ i.high * right
  else i.low * right < left && left < i.high * right

/-- How far `candidate * 10 ^ power` is from the number, in units common to one `power`. -/
def Interval.distance (i : Interval) (candidate : Nat) (power : Int) : Nat :=
  let left := candidate * i.denominator * Nat.pow 10 power.toNat
  let right := i.value * Nat.pow 10 (-power).toNat
  (left - right) + (right - left)

/-- The better of the two neighbours on the grid `10 ^ power`, if one lies in the interval. -/
def Interval.onGrid? (i : Interval) (power : Int) : Option Nat :=
  let floor := i.value * Nat.pow 10 (-power).toNat / (i.denominator * Nat.pow 10 power.toNat)
  match i.holds floor power, i.holds (floor + 1) power with
  | false, false => none
  | true, false => some floor
  | false, true => some (floor + 1)
  | true, true =>
      let near := i.distance floor power
      let far := i.distance (floor + 1) power
      if near < far then some floor
      else if far < near then some (floor + 1)
      else some (floor + floor % 2)

def Interval.reaches (i : Interval) (power : Int) : Bool :=
  i.denominator * Nat.pow 10 power.toNat ≤ i.value * Nat.pow 10 (-power).toNat

def Interval.leading (i : Interval) : Nat → Int → Int
  | 0, top => top
  | steps + 1, top => if i.reaches top then top else i.leading steps (top - 1)

/-- The first grid with a hit, from `count` digits on. -/
def Interval.search (i : Interval) (leading : Int) : Nat → Nat → Nat × Int
  | 0, count => (i.value / i.denominator, leading - count)
  | steps + 1, count =>
      let power := leading - count + 1
      match i.onGrid? power with
      | some digits => (digits, power)
      | none => i.search leading steps (count + 1)

def estimate (x : Binary64) : Int :=
  ((Nat.log2 x.significand : Int) + x.scale + 1) * 30103 / 100000 + 1

def digits (x : Binary64) : Nat × Int :=
  let i := interval x
  i.search (i.leading 4 (estimate x)) 17 1

/-- Digits without trailing zeros, and the decimal exponent of the first. -/
def normalized (x : Binary64) : List Char × Int :=
  let (n, power) := digits x
  let cs := Nat.toDigits 10 n
  let kept := (cs.reverse.dropWhile (· == '0')).reverse
  (kept, power + cs.length - 1)

structure Layout where
  lowest : Int
  highest : Int
  /-- What a positional text without a fraction ends in. -/
  wholeEnd : List Char
  mark : Char
  /-- What stands before an exponent that is not negative. -/
  plus : List Char

def Layout.exponent (layout : Layout) (e : Int) : List Char :=
  if e < 0 then '-' :: Nat.toDigits 10 (-e).toNat else layout.plus ++ Nat.toDigits 10 e.toNat

def Layout.text (layout : Layout) (cs : List Char) (e : Int) : List Char :=
  if layout.lowest ≤ e ∧ e ≤ layout.highest then
    if e < 0 then '0' :: '.' :: List.replicate (-e - 1).toNat '0' ++ cs
    else
      let whole := e.toNat + 1
      if cs.length ≤ whole then cs ++ List.replicate (whole - cs.length) '0' ++ layout.wholeEnd
      else cs.take whole ++ '.' :: cs.drop whole
  else
    match cs with
    | [] => []
    | [c] => c :: layout.mark :: layout.exponent e
    | c :: rest => c :: '.' :: rest ++ layout.mark :: layout.exponent e

def Layout.write (layout : Layout) (x : Binary64) : List Char :=
  let sign := if x.negative then ['-'] else []
  if x.isZero then sign ++ '0' :: layout.wholeEnd
  else
    let (cs, e) := normalized x
    sign ++ layout.text cs e

end HolderBond.Shortest
