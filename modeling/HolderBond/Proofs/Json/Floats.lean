import HolderBond.Proofs.Json.Numbers

/-!
# Printed numbers

The shortest digits of a float are laid out behind the point, before it, around it, or with an
exponent.  Each of these texts is a numeral for the same decimal, so that a printed number tells
which number it is.
-/

set_option autoImplicit false

namespace HolderBond.Json

open Scan

/-! ## Layouts -/

namespace Numeral

/-- A numeral with a fraction or an exponent that stands for a decimal. -/
structure Spells (numeral : Numeral) (value : ℚ) : Prop where
  good : numeral.WellFormed
  marked : numeral.fraction ≠ none ∨ numeral.exponent ≠ none
  value : (numeral.digits : ℚ) * 10 ^ numeral.power = value

def decimal (cs : List Char) (e : Int) : ℚ :=
  Nat.ofDigitChars 10 cs 0 * 10 ^ (e + 1 - cs.length)

theorem isDigit_append {cs ds : List Char} (first : ∀ c ∈ cs, c.isDigit = true)
    (second : ∀ c ∈ ds, c.isDigit = true) : ∀ c ∈ cs ++ ds, c.isDigit = true :=
  fun c member => (List.mem_append.1 member).elim (first c) (second c)

theorem isDigit_zeros (count : Nat) : ∀ c ∈ List.replicate count '0', c.isDigit = true := by
  intro c member
  rw [List.eq_of_mem_replicate member]
  rfl

variable {cs : List Char} {e : Int}

theorem spells_behindPoint (digits : ∀ c ∈ cs, c.isDigit = true) (some : cs ≠ []) (below : e < 0) :
    Spells ⟨['0'], .some (List.replicate (-e - 1).toNat '0' ++ cs), none⟩ (decimal cs e) where
  good := by
    refine ⟨isDigit_zeros 1, Or.inl rfl, ?_⟩
    rintro _ ⟨⟩
    exact ⟨by simp [some], isDigit_append (isDigit_zeros _) digits⟩
  marked := by simp
  value := by
    have same : Numeral.digits ⟨['0'], .some (List.replicate (-e - 1).toNat '0' ++ cs), none⟩ =
        Nat.ofDigitChars 10 cs 0 := by
      simp [Numeral.digits, Nat.ofDigitChars_append, Nat.ofDigitChars_cons]
    rw [same, decimal]
    congr 2
    simp only [power, Option.getD_none, Option.getD_some, List.length_append,
      List.length_replicate]
    omega

theorem spells_beforePoint (digits : ∀ c ∈ cs, c.isDigit = true)
    (leading : ∃ c rest, cs = c :: rest ∧ c ≠ '0') (above : 0 ≤ e)
    (short : cs.length ≤ e.toNat + 1) :
    Spells ⟨cs ++ List.replicate (e.toNat + 1 - cs.length) '0', some ['0'], none⟩
      (decimal cs e) where
  good := by
    obtain ⟨c, rest, rfl, nonzero⟩ := leading
    refine ⟨isDigit_append digits (isDigit_zeros _), Or.inr ⟨c, _, rfl, nonzero⟩, ?_⟩
    rintro _ ⟨⟩
    exact ⟨List.cons_ne_nil _ _, isDigit_zeros 1⟩
  marked := by simp
  value := by
    have padded : Numeral.digits
        ⟨cs ++ List.replicate (e.toNat + 1 - cs.length) '0', some ['0'], none⟩ =
        Nat.ofDigitChars 10 cs 0 * 10 ^ (e.toNat + 1 - cs.length) * 10 := by
      simp only [Numeral.digits, Option.getD_some, Nat.ofDigitChars_append,
        Nat.ofDigitChars_replicate_zero, Nat.ofDigitChars_cons, Nat.ofDigitChars_nil]
      norm_num
      ring
    have whole : e + 1 - cs.length = ((e.toNat + 1 - cs.length : Nat) : Int) := by omega
    rw [padded, decimal, whole, zpow_natCast]
    simp [power]

theorem spells_aroundPoint (digits : ∀ c ∈ cs, c.isDigit = true)
    (leading : ∃ c rest, cs = c :: rest ∧ c ≠ '0') (above : 0 ≤ e)
    (long : e.toNat + 1 < cs.length) :
    Spells ⟨cs.take (e.toNat + 1), some (cs.drop (e.toNat + 1)), none⟩ (decimal cs e) where
  good := by
    refine ⟨fun c member => digits c (List.mem_of_mem_take member), ?_, ?_⟩
    · obtain ⟨c, rest, rfl, nonzero⟩ := leading
      exact Or.inr ⟨c, rest.take e.toNat, rfl, nonzero⟩
    · rintro _ ⟨⟩
      refine ⟨?_, fun c member => digits c (List.mem_of_mem_drop member)⟩
      rw [ne_eq, List.drop_eq_nil_iff]
      omega
  marked := by simp
  value := by
    have same : Numeral.digits ⟨cs.take (e.toNat + 1), some (cs.drop (e.toNat + 1)), none⟩ =
        Nat.ofDigitChars 10 cs 0 := by
      simp [Numeral.digits]
    rw [same, decimal]
    congr 2
    simp only [power, Option.getD_none, Option.getD_some, List.length_drop]
    omega

theorem spells_oneDigit {c : Char} (digit : c.isDigit = true) (nonzero : c ≠ '0') :
    Spells ⟨[c], none, some e⟩ (decimal [c] e) where
  good := by
    refine ⟨by simpa using digit, Or.inr ⟨c, [], rfl, nonzero⟩, ?_⟩
    rintro _ ⟨⟩
  marked := by simp
  value := by simp [Numeral.digits, power, decimal]

theorem spells_withExponent {c d : Char} {more : List Char}
    (digits : ∀ b ∈ c :: d :: more, b.isDigit = true) (nonzero : c ≠ '0') :
    Spells ⟨[c], some (d :: more), some e⟩ (decimal (c :: d :: more) e) where
  good := by
    refine ⟨by simpa using digits c List.mem_cons_self, Or.inr ⟨c, [], rfl, nonzero⟩, ?_⟩
    rintro _ ⟨⟩
    exact ⟨List.cons_ne_nil d more, fun b member => digits b (List.mem_cons_of_mem c member)⟩
  marked := by simp
  value := by
    simp only [Numeral.digits, power, decimal, Option.getD_some, List.singleton_append,
      List.length_cons]
    congr 2
    push_cast
    ring

/-- Digits that are laid out are a numeral for their decimal. -/
theorem exists_of_layout (e : Int) (digits : ∀ c ∈ cs, c.isDigit = true)
    (leading : ∃ c rest, cs = c :: rest ∧ c ≠ '0') :
    ∃ numeral : Numeral, numeral.Spells (decimal cs e) ∧ ∀ negative,
      numeral.printed negative = (if negative then ['-'] else []) ++ floatLayout.text cs e := by
  have some : cs ≠ [] := by
    obtain ⟨c, rest, rfl, -⟩ := leading
    exact List.cons_ne_nil c rest
  unfold Shortest.Layout.text
  by_cases positional : floatLayout.lowest ≤ e ∧ e ≤ floatLayout.highest
  · rw [if_pos positional]
    by_cases below : e < 0
    · refine ⟨_, spells_behindPoint digits some below, fun negative => ?_⟩
      simp [if_pos below, printed, signed, fractionChars, exponentChars]
    · rw [if_neg below]
      by_cases short : cs.length ≤ e.toNat + 1
      · refine ⟨_, spells_beforePoint digits leading (by omega) short, fun negative => ?_⟩
        simp [short, printed, signed, fractionChars, exponentChars, floatLayout]
      · refine ⟨_, spells_aroundPoint digits leading (by omega) (by omega), fun negative => ?_⟩
        simp [short, printed, signed, fractionChars, exponentChars]
  · rw [if_neg positional]
    obtain ⟨c, rest, rfl, nonzero⟩ := leading
    cases rest with
    | nil =>
        refine ⟨_, spells_oneDigit (e := e) (digits c List.mem_cons_self) nonzero,
          fun negative => ?_⟩
        simp [printed, signed, fractionChars, exponentChars, floatLayout]
    | cons d more =>
        refine ⟨_, spells_withExponent (e := e) digits nonzero, fun negative => ?_⟩
        simp [printed, signed, fractionChars, exponentChars, floatLayout]

end Numeral

/-! ## Every printed number -/

/-- A float is printed as a numeral that rounds to it, a zero as one without value. -/
theorem exists_of_float (x : Binary64) :
    ∃ numeral : Numeral, numeral.WellFormed ∧
      numberChars (.float x) = numeral.printed x.negative ∧
      (numeral.fraction ≠ none ∨ numeral.exponent ≠ none) ∧
      ((x.isZero = true ∧ numeral.digits = 0) ∨
        (x.isZero = false ∧ x.Rounds (numeral.digits * 10 ^ numeral.power))) := by
  rw [numberChars, Shortest.Layout.write]
  cases zero : x.isZero with
  | true =>
      exact ⟨⟨['0'], some ['0'], none⟩, ⟨by simp, Or.inl rfl, by simp⟩, rfl, Or.inl (by simp),
        Or.inl ⟨rfl, rfl⟩⟩
  | false =>
      have spells := Shortest.normalized_spells zero
      obtain ⟨numeral, ⟨good, marked, value⟩, text⟩ :=
        Numeral.exists_of_layout (Shortest.normalized x).2 spells.digits spells.leading
      refine ⟨numeral, good, (text x.negative).symm, marked, Or.inr ⟨rfl, ?_⟩⟩
      rw [value]
      exact spells.rounds

/-- The number that a numeral with its sign is nearest to. -/
inductive Numeral.Denotes (numeral : Numeral) : Bool → JsonNumber → Prop where
  | natural {n : UInt64} (same : numeral = .natural n.toNat) : Denotes numeral false (.natural n)
  | negative {k : Fin 0x8000000000000000} (same : numeral = .natural (k.val + 1)) :
      Denotes numeral true (.negative k)
  | float {x : Binary64} (marked : numeral.fraction ≠ none ∨ numeral.exponent ≠ none)
      (nearest : Binary64.nearestDecimal? x.negative numeral.digits numeral.power = some x) :
      Denotes numeral x.negative (.float x)

theorem exists_of_numberChars (n : JsonNumber) :
    ∃ (numeral : Numeral) (negative : Bool), numeral.WellFormed ∧
      numberChars n = numeral.printed negative ∧ numeral.Denotes negative n := by
  cases n with
  | natural n =>
      exact ⟨_, false, Numeral.natural_wellFormed _, (Numeral.printed_natural _ false).symm,
        .natural rfl⟩
  | negative k =>
      exact ⟨_, true, Numeral.natural_wellFormed _, (Numeral.printed_natural _ true).symm,
        .negative rfl⟩
  | float x =>
      obtain ⟨numeral, good, text, marked, ⟨zero, none⟩ | ⟨nonzero, rounds⟩⟩ := exists_of_float x
      · refine ⟨numeral, x.negative, good, text, .float marked ?_⟩
        rw [none, Binary64.nearestDecimal?_zero, ← Binary64.eq_zero_of_isZero zero]
      · exact ⟨numeral, x.negative, good, text,
          .float marked (Binary64.nearestDecimal?_of_rounds nonzero rounds)⟩

theorem numberChars_start (n : JsonNumber) :
    ∃ c others, numberChars n = c :: others ∧ beginsNumber (.char c) = true := by
  obtain ⟨numeral, negative, good, text, -⟩ := exists_of_numberChars n
  rw [text]
  exact good.exists_cons negative _

namespace Numeral

variable {first second : Numeral} {negative other : Bool}

theorem digits_of_parts (same : first.parts negative = second.parts other) :
    first.digits = second.digits ∧ first.power = second.power := by
  simp only [parts, Prod.mk.injEq] at same
  obtain ⟨-, whole, fraction, exponent⟩ := same
  have places := congrArg (fun digits => digits.getD []) fraction
  simp only [places_eq] at places
  constructor
  · simp only [digits, ← foldl_digits, List.map_append, whole, places]
  · have count := congrArg List.length places
    rw [List.length_map, List.length_map] at count
    rw [power, power, exponent, count]

theorem marked_of_parts (same : first.parts negative = second.parts other)
    (marked : first.fraction ≠ none ∨ first.exponent ≠ none) :
    second.fraction ≠ none ∨ second.exponent ≠ none := by
  simp only [parts, Prod.mk.injEq] at same
  obtain ⟨-, -, fraction, exponent⟩ := same
  rw [exponent, ne_eq, ← Option.map_eq_none_iff, fraction, Option.map_eq_none_iff] at marked
  exact marked

theorem not_marked_natural (n : Nat) :
    ¬ ((natural n).fraction ≠ none ∨ (natural n).exponent ≠ none) := by
  simp [natural]

theorem Denotes.unique {n m : JsonNumber} (left : first.Denotes negative n)
    (right : second.Denotes other m) (same : first.parts negative = second.parts other) :
    n = m := by
  obtain ⟨digits, power⟩ := digits_of_parts same
  have sign : negative = other := congrArg Prod.fst same
  cases left with
  | natural left =>
      subst left
      cases right with
      | natural right =>
          subst right
          rw [digits_natural, digits_natural] at digits
          rw [UInt64.toNat_inj.1 digits]
      | negative => cases sign
      | float marked => exact absurd (marked_of_parts same.symm marked) (not_marked_natural _)
  | negative left =>
      subst left
      cases right with
      | natural => cases sign
      | negative right =>
          subst right
          rw [digits_natural, digits_natural] at digits
          rw [Fin.ext (Nat.succ.inj digits)]
      | float marked => exact absurd (marked_of_parts same.symm marked) (not_marked_natural _)
  | float marked nearest =>
      cases right with
      | natural right => exact absurd (marked_of_parts same marked) (right ▸ not_marked_natural _)
      | negative right => exact absurd (marked_of_parts same marked) (right ▸ not_marked_natural _)
      | float _ closest =>
          rw [sign, digits, power, closest] at nearest
          rw [Option.some.inj nearest]

end Numeral

/-- A printed number can be told from any other, as long as it is seen where it ends. -/
theorem numberChars_append {n m : JsonNumber} {rest more : List Char}
    (ends : EndsNumber (letters rest)) (stops : EndsNumber (letters more))
    (same : numberChars n ++ rest = numberChars m ++ more) : n = m ∧ rest = more := by
  obtain ⟨first, negative, good, text, denotes⟩ := exists_of_numberChars n
  obtain ⟨second, other, fine, words, means⟩ := exists_of_numberChars m
  have left := on_numberParts_printed good negative ends
  have right := on_numberParts_printed fine other stops
  rw [← letters_append, ← text, same] at left
  rw [← letters_append, ← words, left, Option.some.injEq, Prod.mk.injEq] at right
  refine ⟨denotes.unique means right.1, ?_⟩
  exact letters_injective right.2

end HolderBond.Json
