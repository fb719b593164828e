import HolderBond.Proofs.Json.Reading

/-!
# Strings are read back

A character may be written as itself, as a backslash and a letter, or by number: in four digits,
or in two times four beyond the first 65536 characters.  Whichever it is, one round of the string
reader takes it and nothing else.
-/

set_option autoImplicit false

namespace HolderBond.Json

open HolderBond.Text (Glyph)

/-! ## How characters are written -/

def WrittenDigit (n : Nat) (c : Char) : Prop :=
  n < 16 ∧ (c = Hex.digit n ∨ c = (Hex.digit n).toUpper)

theorem writtenDigit {n : Nat} (small : n < 16) : WrittenDigit n (Hex.digit n) :=
  ⟨small, Or.inl rfl⟩

inductive WrittenUnit : Nat → List Char → Prop where
  | digits {i j k l : Nat} {a b c d : Char} (first : WrittenDigit i a) (second : WrittenDigit j b)
      (third : WrittenDigit k c) (fourth : WrittenDigit l d) :
      WrittenUnit (((i * 16 + j) * 16 + k) * 16 + l) [a, b, c, d]

/-- How a character may be written inside a string. -/
inductive WrittenChar : Char → List Char → Prop where
  | plain {c : Char} (noQuote : c ≠ '"') (noEscape : c ≠ '\\') (noControl : ¬ c.toNat < 32) :
      WrittenChar c [c]
  | letter {c d : Char} (known : Scan.escapeLetter? d = some c) : WrittenChar c ['\\', d]
  | number {c : Char} {ds : List Char} (written : WrittenUnit c.toNat ds) :
      WrittenChar c ('\\' :: 'u' :: ds)
  | pair {c : Char} {high low : Nat} {hs ls : List Char}
      (isHigh : 0xD800 ≤ high ∧ high ≤ 0xDBFF) (isLow : 0xDC00 ≤ low ∧ low ≤ 0xDFFF)
      (halves : c.toNat = 0x10000 + (high - 0xD800) * 0x400 + (low - 0xDC00))
      (first : WrittenUnit high hs) (second : WrittenUnit low ls) :
      WrittenChar c ('\\' :: 'u' :: (hs ++ '\\' :: 'u' :: ls))

inductive WrittenChars : List Char → List Char → Prop where
  | nil : WrittenChars [] []
  | cons {c : Char} {cs text more : List Char} (char : WrittenChar c text)
      (others : WrittenChars cs more) : WrittenChars (c :: cs) (text ++ more)

theorem WrittenChars.length_le {cs text : List Char} (written : WrittenChars cs text) :
    cs.length ≤ text.length := by
  induction written with
  | nil => exact Nat.le_refl _
  | cons char others ih =>
      have some : ∀ {c : Char} {text : List Char}, WrittenChar c text → 1 ≤ text.length := by
        intro c text written
        cases written <;> simp
      have here := some char
      rw [List.length_cons, List.length_append]
      omega

theorem writtenChar_escapeChar (c : Char) : WrittenChar c (escapeChar c) := by
  have numberOf : ∀ {n : Nat}, (c.toNat == n) = true → c = Char.ofNat n := by
    intro n same
    rw [← eq_of_beq same, Char.ofNat_toNat]
  unfold escapeChar
  split
  · next quote =>
      rw [eq_of_beq quote]
      exact .letter rfl
  split
  · next backslash =>
      rw [eq_of_beq backslash]
      exact .letter rfl
  split
  · next same =>
      rw [numberOf same]
      exact .letter rfl
  split
  · next same =>
      rw [numberOf same]
      exact .letter rfl
  split
  · next same =>
      rw [numberOf same]
      exact .letter rfl
  split
  · next same =>
      rw [numberOf same]
      exact .letter rfl
  split
  · next same =>
      rw [numberOf same]
      exact .letter rfl
  split
  · next control =>
      have number : ((0 * 16 + 0) * 16 + c.toNat / 16) * 16 + c.toNat % 16 = c.toNat := by omega
      have digits : WrittenUnit (((0 * 16 + 0) * 16 + c.toNat / 16) * 16 + c.toNat % 16)
          ['0', '0', Hex.digit (c.toNat / 16), Hex.digit (c.toNat % 16)] :=
        .digits (writtenDigit (by decide)) (writtenDigit (by decide)) (writtenDigit (by omega))
          (writtenDigit (by omega))
      rw [number] at digits
      exact .number digits
  · next noQuote noEscape _ _ _ _ _ noControl =>
      exact .plain (by simpa using noQuote) (by simpa using noEscape) noControl

theorem writtenChars_flatMap (cs : List Char) : WrittenChars cs (cs.flatMap escapeChar) := by
  induction cs with
  | nil => exact .nil
  | cons c cs ih => exact .cons (writtenChar_escapeChar c) ih

namespace Scan

/-! ## Numbered characters -/

theorem hexValue?_of_written {n : Nat} {c : Char} (written : WrittenDigit n c) :
    hexValue? (.char c) = some n := by
  obtain ⟨small, rfl | rfl⟩ := written <;> revert n <;> decide

theorem on_fourDigits {n : Nat} {ds : List Char} (rest : Input) (written : WrittenUnit n ds) :
    fourDigits.on (letters ds ++ rest) = some (n, rest) := by
  cases written with
  | digits first second third fourth =>
      simp [fourDigits, hexValue?_of_written first, hexValue?_of_written second,
        hexValue?_of_written third, hexValue?_of_written fourth]

theorem on_numbered {c : Char} {ds : List Char} (rest : Input) (written : WrittenUnit c.toNat ds) :
    numbered.on (letters ds ++ rest) = some (c, rest) := by
  have noSurrogate : c.toNat < 0xD800 ∨ 0xDFFF < c.toNat ∧ c.toNat < 0x110000 := c.valid
  have notLow : ¬ (0xDC00 ≤ c.toNat ∧ c.toNat ≤ 0xDFFF) := by omega
  have notHigh : ¬ (0xD800 ≤ c.toNat ∧ c.toNat ≤ 0xDBFF) := by omega
  rw [numbered, on_bind, on_fourDigits rest written, Option.bind_some]
  simp only [Bool.and_eq_true, decide_eq_true_eq, notLow, notHigh, if_false, on_pure,
    Char.ofNat_toNat]

/-- After the first half of a pair, its second half is read. -/
theorem on_numbered_high {high : Nat} {hs : List Char} (rest : Input)
    (isHigh : 0xD800 ≤ high ∧ high ≤ 0xDBFF) (written : WrittenUnit high hs) :
    numbered.on (letters hs ++ rest) = (lowSurrogate high).on rest := by
  have notLow : ¬ (0xDC00 ≤ high ∧ high ≤ 0xDFFF) := by omega
  rw [numbered, on_bind, on_fourDigits rest written, Option.bind_some]
  simp only [Bool.and_eq_true, decide_eq_true_eq, notLow, isHigh, if_false, if_true, and_self]

theorem on_lowSurrogate {high low : Nat} {ls : List Char} (rest : Input)
    (isLow : 0xDC00 ≤ low ∧ low ≤ 0xDFFF) (written : WrittenUnit low ls) :
    (lowSurrogate high).on (letters ('\\' :: 'u' :: ls) ++ rest) =
      some (Char.ofNat (0x10000 + (high - 0xD800) * 0x400 + (low - 0xDC00)), rest) := by
  simp [lowSurrogate, on_fourDigits rest written, isLow]

/-! ## One character -/

theorem on_stringRest_escape {c : Char} {written more : Input} (g : Glyph) (clock : Input)
    (seen : List Char) (read : escape.on (written ++ more) = some (c, more)) :
    (stringRest (g :: clock) true seen).on (.char '\\' :: written ++ more) =
      (stringRest clock true (c :: seen)).on more := by
  simp [stringRest, read]

theorem on_escape_letter {c d : Char} (more : Input) (known : escapeLetter? d = some c) :
    escape.on (letters [d] ++ more) = some (c, more) := by
  have noNumber : d ≠ 'u' := by
    rintro rfl
    cases known
  simp [escape, known]

theorem on_escape_number {c : Char} {ds : List Char} {more : Input}
    (read : numbered.on (letters ds ++ more) = some (c, more)) :
    escape.on (letters ('u' :: ds) ++ more) = some (c, more) := by
  simpa [escape] using read

/-- One round of the reader takes one character, however it is written. -/
theorem on_stringRest_char {c : Char} {text : List Char} (written : WrittenChar c text) (g : Glyph)
    (clock more : Input) (seen : List Char) :
    (stringRest (g :: clock) true seen).on (letters text ++ more) =
      (stringRest clock true (c :: seen)).on more := by
  cases written with
  | plain noQuote noEscape noControl => simp [stringRest, noQuote, noEscape, noControl]
  | letter known => exact on_stringRest_escape g clock seen (on_escape_letter more known)
  | number written =>
      exact on_stringRest_escape g clock seen (on_escape_number (on_numbered more written))
  | @pair high low hs ls isHigh isLow halves first second =>
      have read : numbered.on (letters (hs ++ '\\' :: 'u' :: ls) ++ more) = some (c, more) := by
        rw [letters_append, List.append_assoc, on_numbered_high _ isHigh first,
          on_lowSurrogate more isLow second, ← halves, Char.ofNat_toNat]
      exact on_stringRest_escape g clock seen (on_escape_number read)

/-! ## Whole strings -/

theorem on_stringRest {cs text : List Char} (written : WrittenChars cs text) (clock rest : Input)
    (seen : List Char) (enough : cs.length < clock.length) :
    (stringRest clock true seen).on (letters text ++ .char '"' :: rest) =
      some (String.ofList (seen.reverse ++ cs), rest) := by
  induction written generalizing clock seen with
  | nil =>
      cases clock with
      | nil => simp at enough
      | cons g clock => simp [stringRest]
  | @cons c cs _ _ char others ih =>
      cases clock with
      | nil => simp at enough
      | cons g clock =>
          have fits : cs.length < clock.length := by
            simp only [List.length_cons] at enough
            omega
          rw [letters_append, List.append_assoc, on_stringRest_char char,
            ih clock (c :: seen) fits, List.reverse_cons, List.append_assoc]
          rfl

theorem on_stringBody {s : String} {text : List Char} (written : WrittenChars s.toList text)
    (rest : Input) :
    stringBody.on (letters text ++ .char '"' :: rest) = some (s, rest) := by
  have length := written.length_le
  have enough : s.toList.length < (letters text ++ .char '"' :: rest).length := by
    simp only [letters, List.length_append, List.length_map, List.length_cons]
    omega
  rw [stringBody, on_bind, on_get, Option.bind_some, on_stringRest written _ _ _ enough]
  simp

end Scan

end HolderBond.Json
