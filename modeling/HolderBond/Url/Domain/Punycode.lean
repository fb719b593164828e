/-!
# Punycode

The encoding of labels in ASCII: the ASCII characters of the label, a hyphen, and for each
other character in order of code points how far the pair of code point and place has to be
advanced to reach it, in digits of base 36 whose thresholds adapt to what went before.
-/

set_option autoImplicit false

namespace HolderBond.Url.Punycode

def digit? (c : Char) : Option Nat :=
  if 'a' ≤ c && c ≤ 'z' then some (c.toNat - 'a'.toNat)
  else if c.isDigit then some (c.toNat - '0'.toNat + 26)
  else none

/-- The digits below which a number ends, at the place of weight `k`. -/
def threshold (bias k : Nat) : Nat :=
  if k ≤ bias then 1 else min (k - bias) 26

/-- Reads a number that begins at the place of weight `k`, each digit counting `scale` times,
and adds it to `total`. -/
def number (bias : Nat) : (k scale total : Nat) → List Char → Option (Nat × List Char)
  | _, _, _, [] => none
  | k, scale, total, c :: rest => do
      let digit ← digit? c
      let sum := total + digit * scale
      if UInt32.size ≤ sum then none
      else if digit < threshold bias k then return (sum, rest)
      else
        let nextScale := scale * (36 - threshold bias k)
        if UInt32.size ≤ nextScale then none
        else number bias (k + 36) nextScale sum rest

theorem length_number {bias k scale total sum : Nat} {cs rest : List Char}
    (read : number bias k scale total cs = some (sum, rest)) : rest.length < cs.length := by
  induction cs generalizing k scale total with
  | nil => simp [number] at read
  | cons c cs shorter =>
      simp only [number, bind, Option.bind_eq_some_iff] at read
      obtain ⟨digit, _, ended⟩ := read
      split at ended
      · cases ended
      · split at ended
        · cases ended
          simp
        · split at ended
          · cases ended
          · exact Nat.lt_succ_of_lt (shorter ended)

def settle (k advance : Nat) : Nat × Nat :=
  if 455 < advance then settle (k + 36) (advance / 35) else (k, advance)
termination_by advance
decreasing_by exact Nat.div_lt_self (by omega) (by omega)

def adapt (advance count : Nat) (isFirst : Bool) : Nat :=
  let damped := if isFirst then advance / 700 else advance / 2
  let (k, small) := settle 0 (damped + damped / count)
  k + 36 * small / (small + 38)

def charOf? (n : Nat) : Option Char :=
  if h : n.isValidChar then some (Char.ofNatAux n h) else none

/-- Puts the characters of the advances into a label; the last one went to code point `n`,
and the next place is `place`. -/
def insertAll (bias n place : Nat) (label : List Char) (digits : List Char) :
    Option (List Char) :=
  match digits with
  | [] => some label
  | c :: cs =>
      match _read : number bias 36 1 place (c :: cs) with
      | none => none
      | some (sum, rest) => do
          let count := label.length + 1
          let next := n + sum / count
          let char ← charOf? next
          insertAll (adapt (sum - place) count (place == 0)) next (sum % count + 1)
            (label.insertIdx (sum % count) char) rest
termination_by digits.length
decreasing_by exact length_number _read

/-- The label that an encoding stands for.  A hyphen in front separates nothing. -/
def decode (encoding : List Char) : Option (List Char) :=
  let digits := (encoding.reverse.takeWhile (· != '-')).reverse
  let basic := encoding.take (encoding.length - digits.length - 1)
  if basic.isEmpty then insertAll 72 128 0 [] encoding else insertAll 72 128 0 basic digits

end HolderBond.Url.Punycode
