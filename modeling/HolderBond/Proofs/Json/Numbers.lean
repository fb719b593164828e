import HolderBond.Proofs.Decimal.Shortest
import HolderBond.Proofs.Json.Reading

/-!
# Numerals

A numeral is digits, perhaps a fraction, perhaps an exponent, and may be written in several ways.
The number reader takes exactly the characters of a numeral and leaves what it makes of its parts.
-/

set_option autoImplicit false

namespace HolderBond.Json

open HolderBond.Text (Glyph)

namespace Scan

/-! ## Digits -/

def digitValue (c : Char) : Nat :=
  c.toNat - 48

theorem digit?_char {c : Char} (digit : c.isDigit = true) :
    digit? (.char c) = some (digitValue c) := by
  have range : '0' ≤ c ∧ c ≤ '9' := by
    simpa [Char.isDigit, Char.le_def] using digit
  simp [digit?, digitValue, range]

theorem digit?_other {c : Char} (noDigit : c.isDigit = false) : digit? (.char c) = none := by
  have range : ¬ ('0' ≤ c ∧ c ≤ '9') := by
    simpa [Char.isDigit, Char.le_def] using noDigit
  simp [digit?] at range ⊢
  exact range

def first? (input : Input) : Option Char :=
  match input with
  | .char c :: _ => some c
  | _ => none

theorem atDigit_eq_false {input : Input} (stops : ∀ c, first? input = some c → c.isDigit = false) :
    atDigit input = false := by
  cases input with
  | nil => rfl
  | cons g rest =>
      cases g with
      | malformed bytes => rfl
      | char c => simp [atDigit, digit?_other (stops c rfl)]

theorem digitRun_letters {cs : List Char} {rest : Input} (digits : ∀ c ∈ cs, c.isDigit = true)
    (stops : atDigit rest = false) :
    digitRun (letters cs ++ rest) = (cs.map digitValue, rest) := by
  induction cs with
  | nil =>
      cases rest with
      | nil => rfl
      | cons g rest =>
          have noDigit : digit? g = none := by simpa [atDigit] using stops
          simp [digitRun, noDigit]
  | cons c cs ih =>
      have known := digit?_char (digits c List.mem_cons_self)
      have others : ∀ d ∈ cs, d.isDigit = true := fun d member =>
        digits d (List.mem_cons_of_mem c member)
      simp [digitRun, known, ih others]

theorem on_someDigits {cs : List Char} {rest : Input} (some : cs ≠ [])
    (digits : ∀ c ∈ cs, c.isDigit = true) (stops : atDigit rest = false) :
    someDigits.on (letters cs ++ rest) = .some (cs.map digitValue, rest) := by
  have start : atDigit (letters cs ++ rest) = true := by
    cases cs with
    | nil => exact absurd rfl some
    | cons c cs => simp [atDigit, digit?_char (digits c List.mem_cons_self)]
  simp [someDigits, start, digitRun_letters digits stops]

theorem ofDigitChars_cons (c : Char) (cs : List Char) (n : Nat) :
    Nat.ofDigitChars 10 (c :: cs) n = Nat.ofDigitChars 10 cs (n * 10 + digitValue c) := by
  rw [Nat.ofDigitChars_cons, Nat.mul_comm]
  rfl

theorem foldl_digits (cs : List Char) (n : Nat) :
    (cs.map digitValue).foldl (fun n d => n * 10 + d) n = Nat.ofDigitChars 10 cs n := by
  induction cs generalizing n with
  | nil => rfl
  | cons c cs ih => rw [List.map_cons, List.foldl_cons, ih, ofDigitChars_cons]

theorem le_ofDigitChars (cs : List Char) (n : Nat) : n ≤ Nat.ofDigitChars 10 cs n := by
  induction cs generalizing n with
  | nil => exact Nat.le_refl n
  | cons c cs ih =>
      rw [ofDigitChars_cons]
      exact Nat.le_trans (by omega) (ih _)

/-- No digit is dropped of a number that fits. -/
theorem appendDigits_of_lt {cs : List Char} {n : Nat}
    (small : Nat.ofDigitChars 10 cs n < UInt64.size) :
    appendDigits n (cs.map digitValue) = (Nat.ofDigitChars 10 cs n, 0) := by
  induction cs generalizing n with
  | nil => rfl
  | cons c cs ih =>
      rw [ofDigitChars_cons] at small ⊢
      have fits := Nat.lt_of_le_of_lt (le_ofDigitChars cs _) small
      rw [List.map_cons, appendDigits, if_pos fits, ih small]

/-! ## Marks -/

theorem on_accept_some (cs : List Char) (c : Char) (rest : Input) (wanted : c ∈ cs) :
    (accept cs).on (.char c :: rest) = some (some c, rest) := by
  simp [accept, wanted]

theorem on_accept_none {cs : List Char} {input : Input}
    (other : ∀ c, first? input = some c → c ∉ cs) : (accept cs).on input = some (none, input) := by
  cases input with
  | nil => rfl
  | cons g rest =>
      cases g with
      | malformed bytes => rfl
      | char c => simp [accept, other c rfl]

end Scan

/-! ## Numerals -/

open Scan

/-- The parts of a number as it is written, apart from its sign. -/
structure Numeral where
  whole : List Char
  fraction : Option (List Char)
  exponent : Option Int

namespace Numeral

def fractionChars : Option (List Char) → List Char
  | none => []
  | some cs => '.' :: cs

def exponentChars : Option Int → List Char
  | none => []
  | some e => 'e' :: floatLayout.exponent e

/-- The ways to write an exponent: the mark in either case, a plus sign or none, and any
number of leading zeros. -/
inductive WrittenExponent : Option Int → List Char → Prop where
  | absent : WrittenExponent none []
  | upward {e : Int} {mark : Char} {sign ds : List Char} (marked : mark ∈ ['e', 'E'])
      (signed : sign = [] ∨ sign = ['+']) (some : ds ≠ [])
      (digits : ∀ c ∈ ds, c.isDigit = true) (value : e = Nat.ofDigitChars 10 ds 0) :
      WrittenExponent (.some e) (mark :: (sign ++ ds))
  | downward {e : Int} {mark : Char} {ds : List Char} (marked : mark ∈ ['e', 'E'])
      (some : ds ≠ []) (digits : ∀ c ∈ ds, c.isDigit = true)
      (value : e = -(Nat.ofDigitChars 10 ds 0 : Int)) :
      WrittenExponent (.some e) (mark :: '-' :: ds)

def signed (numeral : Numeral) (negative : Bool) (exponent : List Char) : List Char :=
  (if negative then ['-'] else []) ++ (numeral.whole ++ (fractionChars numeral.fraction ++ exponent))

def printed (numeral : Numeral) (negative : Bool) : List Char :=
  numeral.signed negative (exponentChars numeral.exponent)

/-- All digits as one integer, and the power of ten that scales it. -/
def digits (numeral : Numeral) : Nat :=
  Nat.ofDigitChars 10 (numeral.whole ++ numeral.fraction.getD []) 0

def power (numeral : Numeral) : Int :=
  numeral.exponent.getD 0 - (numeral.fraction.getD []).length

/-- The parts that the reader asks for: no zero before other digits, and none left empty. -/
structure WellFormed (numeral : Numeral) : Prop where
  whole : ∀ c ∈ numeral.whole, c.isDigit = true
  leading : numeral.whole = ['0'] ∨ ∃ c rest, numeral.whole = c :: rest ∧ c ≠ '0'
  fraction : ∀ cs, numeral.fraction = some cs → cs ≠ [] ∧ ∀ c ∈ cs, c.isDigit = true

def parts (numeral : Numeral) (negative : Bool) : Bool × List Nat × Option (List Nat) × Option Int :=
  (negative, numeral.whole.map digitValue, numeral.fraction.map (List.map digitValue),
    numeral.exponent)

def meaning (numeral : Numeral) (negative : Bool) : Scan JsonNumber :=
  numberOf negative (numeral.whole.map digitValue) (numeral.fraction.map (List.map digitValue))
    numeral.exponent

theorem writtenExponent_exponentChars (exponent : Option Int) :
    WrittenExponent exponent (exponentChars exponent) := by
  have isDigit : ∀ n : Nat, ∀ c ∈ Nat.toDigits 10 n, c.isDigit = true :=
    fun n c member => Nat.isDigit_of_mem_toDigits (by decide) (by decide) member
  have mark : 'e' ∈ ['e', 'E'] := List.mem_cons_self
  cases exponent with
  | none => exact .absent
  | some e =>
      rw [exponentChars, Shortest.Layout.exponent]
      split
      · refine .downward mark Nat.toDigits_ne_nil (isDigit _) ?_
        simp
        omega
      · refine .upward mark (Or.inr rfl) Nat.toDigits_ne_nil (isDigit _) ?_
        simp
        omega

end Numeral

/-- How a number may be written: as the sign and the parts of a numeral that stands for it. -/
inductive WrittenNumber (n : JsonNumber) : List Char → Prop where
  | numeral {numeral : Numeral} {negative : Bool} {exponent : List Char}
      (good : numeral.WellFormed)
      (written : Numeral.WrittenExponent numeral.exponent exponent)
      (means : ∀ rest, (numeral.meaning negative).on rest = some (n, rest)) :
      WrittenNumber n (numeral.signed negative exponent)

/-- Where a number may end: nothing that follows could belong to it. -/
def EndsNumber (rest : Input) : Prop :=
  ∀ c, first? rest = some c → c.isDigit = false ∧ c ≠ '.' ∧ c ≠ 'e' ∧ c ≠ 'E'

namespace Scan

variable {rest : Input}

theorem on_integerPart {cs : List Char} (digits : ∀ c ∈ cs, c.isDigit = true)
    (leading : cs = ['0'] ∨ ∃ c others, cs = c :: others ∧ c ≠ '0')
    (stops : atDigit rest = false) :
    integerPart.on (letters cs ++ rest) = some (cs.map digitValue, rest) := by
  rcases leading with rfl | ⟨c, others, rfl, nonzero⟩
  · simp [integerPart, stops, digitValue]
  · have read := on_someDigits (List.cons_ne_nil c others) digits stops
    rw [letters_cons, List.cons_append] at read ⊢
    simp [integerPart, nonzero, read]

theorem on_fractionPart (fraction : Option (List Char))
    (good : ∀ cs, fraction = some cs → cs ≠ [] ∧ ∀ c ∈ cs, c.isDigit = true)
    (stops : ∀ c, first? rest = some c → c.isDigit = false ∧ c ≠ '.') :
    fractionPart.on (letters (Numeral.fractionChars fraction) ++ rest) =
      some (fraction.map fun cs => cs.map digitValue, rest) := by
  cases fraction with
  | none =>
      have noPoint : (accept ['.']).on rest = some (none, rest) :=
        on_accept_none fun c begins => by simpa using (stops c begins).2
      simp [fractionPart, Numeral.fractionChars, noPoint]
  | some cs =>
      obtain ⟨some, digits⟩ := good cs rfl
      have point := on_accept_some ['.'] '.' (letters cs ++ rest) List.mem_cons_self
      have read := on_someDigits some digits
        (atDigit_eq_false fun c begins => (stops c begins).1)
      simp [fractionPart, Numeral.fractionChars, point, read]

theorem on_accept_sign {ds : List Char} (rest : Input) (some : ds ≠ [])
    (digits : ∀ c ∈ ds, c.isDigit = true) :
    (accept ['+', '-']).on (letters ds ++ rest) = .some (none, letters ds ++ rest) := by
  apply on_accept_none
  intro c begins
  cases ds with
  | nil => exact absurd rfl some
  | cons d others =>
      cases begins
      have digit := digits c List.mem_cons_self
      rw [List.mem_cons, List.mem_singleton]
      rintro (rfl | rfl) <;> exact absurd digit (by decide)

theorem on_exponentPart {exponent : Option Int} {cs : List Char}
    (written : Numeral.WrittenExponent exponent cs) (ends : EndsNumber rest) :
    exponentPart.on (letters cs ++ rest) = some (exponent, rest) := by
  have stops : atDigit rest = false := atDigit_eq_false fun c begins => (ends c begins).1
  cases written with
  | absent =>
      have noMark : (accept ['e', 'E']).on rest = some (none, rest) :=
        on_accept_none fun c begins => by
          obtain ⟨_, _, lower, upper⟩ := ends c begins
          simp [lower, upper]
      simp [exponentPart, noMark]
  | upward marked signed some digits value =>
      have mark := fun input => on_accept_some ['e', 'E'] _ input marked
      have read := on_someDigits some digits stops
      rcases signed with rfl | rfl
      · have sign := on_accept_sign rest some digits
        simp [exponentPart, mark, sign, read, value, foldl_digits]
      · have sign := fun input => on_accept_some ['+', '-'] '+' input (by simp)
        simp [exponentPart, mark, sign, read, value, foldl_digits]
  | downward marked some digits value =>
      have mark := fun input => on_accept_some ['e', 'E'] _ input marked
      have sign := fun input => on_accept_some ['+', '-'] '-' input (by simp)
      have read := on_someDigits some digits stops
      simp [exponentPart, mark, sign, read, value, foldl_digits]

def numberParts : Scan (Bool × List Nat × Option (List Nat) × Option Int) := do
  let sign ← accept ['-']
  let whole ← integerPart
  let fraction ← fractionPart
  let exponent ← exponentPart
  return (sign.isSome, whole, fraction, exponent)

theorem number_eq : number = (do
    let (negative, whole, fraction, exponent) ← numberParts
    numberOf negative whole fraction exponent) := by
  simp [number, numberParts]

/-- The parts of a numeral are told apart, and nothing after it is taken. -/
theorem on_numberParts {numeral : Numeral} {exponent : List Char} (good : numeral.WellFormed)
    (written : Numeral.WrittenExponent numeral.exponent exponent) (negative : Bool)
    (ends : EndsNumber rest) :
    numberParts.on (letters (numeral.signed negative exponent) ++ rest) =
      some (numeral.parts negative, rest) := by
  obtain ⟨whole, fraction, power⟩ := numeral
  obtain ⟨wholeDigits, leading, fractionDigits⟩ := good
  dsimp only at wholeDigits leading fractionDigits written
  -- What follows the integer part begins with a mark or ends the number.
  have afterFraction : ∀ c, first? (letters exponent ++ rest) = some c →
      c.isDigit = false ∧ c ≠ '.' := by
    intro c begins
    have mark : ∀ {d : Char}, d ∈ ['e', 'E'] → d.isDigit = false ∧ d ≠ '.' := by
      intro d member
      rw [List.mem_cons, List.mem_singleton] at member
      rcases member with rfl | rfl <;> decide
    cases written with
    | absent => exact ⟨(ends c begins).1, (ends c begins).2.1⟩
    | upward marked =>
        cases begins
        exact mark marked
    | downward marked =>
        cases begins
        exact mark marked
  have afterWhole : atDigit (letters (Numeral.fractionChars fraction) ++
      (letters exponent ++ rest)) = false := by
    apply atDigit_eq_false
    intro c begins
    cases fraction with
    | none => exact (afterFraction c begins).1
    | some cs =>
        cases begins
        decide
  have sign : (accept ['-']).on (letters ((if negative then ['-'] else []) ++ whole) ++
      (letters (Numeral.fractionChars fraction) ++ (letters exponent ++ rest))) =
      some (if negative then some '-' else none, letters whole ++
        (letters (Numeral.fractionChars fraction) ++ (letters exponent ++ rest))) := by
    cases negative with
    | true => exact on_accept_some _ _ _ List.mem_cons_self
    | false =>
        apply on_accept_none
        intro c begins
        cases whole with
        | nil => simp at leading
        | cons d others =>
            cases begins
            rw [List.mem_singleton]
            rintro rfl
            exact absurd (wholeDigits '-' List.mem_cons_self) (by decide)
  have signed : (if negative then some '-' else none : Option Char).isSome = negative := by
    cases negative <;> rfl
  have parts : letters (Numeral.signed ⟨whole, fraction, power⟩ negative exponent) ++ rest =
      letters ((if negative then ['-'] else []) ++ whole) ++
      (letters (Numeral.fractionChars fraction) ++ (letters exponent ++ rest)) := by
    simp [Numeral.signed]
  rw [parts, numberParts, on_bind, sign, Option.bind_some, on_bind,
    on_integerPart wholeDigits leading afterWhole, Option.bind_some, on_bind,
    on_fractionPart fraction fractionDigits afterFraction, Option.bind_some, on_bind,
    on_exponentPart written ends, Option.bind_some, signed]
  rfl

theorem on_numberParts_printed {numeral : Numeral} (good : numeral.WellFormed) (negative : Bool)
    (ends : EndsNumber rest) :
    numberParts.on (letters (numeral.printed negative) ++ rest) =
      some (numeral.parts negative, rest) :=
  on_numberParts good (Numeral.writtenExponent_exponentChars _) negative ends

theorem on_number {numeral : Numeral} {exponent : List Char} (good : numeral.WellFormed)
    (written : Numeral.WrittenExponent numeral.exponent exponent) (negative : Bool)
    (ends : EndsNumber rest) :
    number.on (letters (numeral.signed negative exponent) ++ rest) =
      (numeral.meaning negative).on rest := by
  rw [number_eq, on_bind, on_numberParts good written negative ends]
  rfl

end Scan

/-! ## Integers -/

namespace Numeral

def natural (n : Nat) : Numeral :=
  ⟨naturalChars n, none, none⟩

theorem natural_wellFormed (n : Nat) : (natural n).WellFormed where
  whole := fun _ member => Nat.isDigit_of_mem_toDigits (by decide) (by decide) member
  leading := by
    rcases Nat.eq_zero_or_pos n with rfl | positive
    · exact Or.inl (Nat.toDigits_zero 10)
    · exact Or.inr (Shortest.toDigits_leading positive)
  fraction := fun _ none => by cases none

theorem printed_natural (n : Nat) (negative : Bool) :
    (natural n).printed negative = (if negative then ['-'] else []) ++ naturalChars n := by
  simp [natural, printed, signed, fractionChars, exponentChars]

@[simp] theorem digits_natural (n : Nat) : (natural n).digits = n := by
  simp [natural, digits, naturalChars]

theorem meaning_natural {n : Nat} (small : n < UInt64.size) (negative : Bool) :
    (natural n).meaning negative = integer negative n := by
  have value : Nat.ofDigitChars 10 (naturalChars n) 0 = n := Nat.ofDigitChars_ten_toDigits
  have kept := appendDigits_of_lt (value.symm ▸ small : Nat.ofDigitChars 10 (naturalChars n) 0 < _)
  simp [meaning, natural, numberOf, kept, value]

theorem places_eq (fraction : Option (List Char)) :
    (fraction.map (List.map digitValue)).getD [] = (fraction.getD []).map digitValue := by
  cases fraction <;> rfl

theorem fits_of_digits {numeral : Numeral} (small : numeral.digits < UInt64.size) :
    appendDigits 0 (numeral.whole.map digitValue) = (Nat.ofDigitChars 10 numeral.whole 0, 0) ∧
      appendDigits (Nat.ofDigitChars 10 numeral.whole 0)
        ((numeral.fraction.map (List.map digitValue)).getD []) = (numeral.digits, 0) := by
  have split : numeral.digits = Nat.ofDigitChars 10 (numeral.fraction.getD [])
      (Nat.ofDigitChars 10 numeral.whole 0) := by
    simp [digits, Nat.ofDigitChars_append]
  rw [split] at small ⊢
  rw [places_eq]
  exact ⟨appendDigits_of_lt (Nat.lt_of_le_of_lt (le_ofDigitChars _ _) small),
    appendDigits_of_lt small⟩

/-- A numeral with a fraction or an exponent means a float; none of its digits is dropped if
together they fit 64 bits. -/
theorem meaning_float {numeral : Numeral} (marked : numeral.fraction ≠ none ∨ numeral.exponent ≠ none)
    (small : numeral.digits < UInt64.size) (negative : Bool) :
    numeral.meaning negative = floating negative numeral.digits numeral.power := by
  obtain ⟨whole, places⟩ := fits_of_digits small
  have power : ((0 + 0 : Nat) : Int) -
      ((numeral.fraction.map (List.map digitValue)).getD []).length + numeral.exponent.getD 0 =
      numeral.power := by
    rw [places_eq, List.length_map, Numeral.power]
    push_cast
    ring
  unfold meaning numberOf
  rw [whole]
  dsimp only
  split
  · next noFraction noExponent =>
      rw [Option.map_eq_none_iff] at noFraction
      exact absurd marked (by simp [noFraction, noExponent])
  · rw [places, power]

end Numeral

/-! ## Every number -/

namespace Scan

variable {rest : Input}

theorem on_number_of_written {n : JsonNumber} {cs : List Char} (written : WrittenNumber n cs)
    (ends : EndsNumber rest) : number.on (letters cs ++ rest) = some (n, rest) := by
  cases written with
  | numeral good written means => rw [on_number good written _ ends, means]

theorem beginsNumber_digit {c : Char} (digit : c.isDigit = true) :
    beginsNumber (.char c) = true := by
  simp [beginsNumber, digit?_char digit]

end Scan

theorem Numeral.WellFormed.exists_cons {numeral : Numeral} (good : numeral.WellFormed)
    (negative : Bool) (exponent : List Char) :
    ∃ c others, numeral.signed negative exponent = c :: others ∧ beginsNumber (.char c) = true := by
  obtain ⟨whole, fraction, power⟩ := numeral
  cases negative with
  | true => exact ⟨'-', _, rfl, by decide⟩
  | false =>
      cases whole with
      | nil => simpa using good.leading
      | cons c others =>
          exact ⟨c, _, rfl, beginsNumber_digit (good.whole c List.mem_cons_self)⟩

theorem WrittenNumber.exists_cons {n : JsonNumber} {cs : List Char} (written : WrittenNumber n cs) :
    ∃ c others, cs = c :: others ∧ beginsNumber (.char c) = true := by
  cases written with
  | numeral good => exact good.exists_cons _ _

end HolderBond.Json
