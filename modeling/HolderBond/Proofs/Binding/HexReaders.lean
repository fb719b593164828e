import HolderBond.Binding.Seed
import HolderBond.Proofs.Byte.Hex

/-!
# The readers of thirty-two bytes

Values and seeds are read from sixty-four digits behind one optional mark.  A text that is not
read is refused for its count, for its first byte that is no digit, or for the number of bytes, in
this order.  The two readers agree but for the blanks around a seed.
-/

set_option autoImplicit false

namespace HolderBond

namespace Bytes32

inductive Unmarked : String → String → Prop
  | marked (digits : String) : Unmarked ("0x" ++ digits) digits
  | bare {digits : String} (noMark : ∀ rest, digits ≠ "0x" ++ rest) : Unmarked digits digits

theorem unmarked_withoutMark (s : String) : Unmarked s (withoutMark s) := by
  unfold withoutMark
  split
  · next rest start =>
      have whole : s = "0x" ++ String.ofList rest := String.toList_inj.1 (by simp [start])
      exact whole ▸ .marked _
  · next noMark =>
      refine .bare fun rest whole => noMark rest.toList ?_
      rw [whole, String.toList_append]
      rfl

structure Spelled (digits : String) : Prop where
  count : digits.length = 64
  digit : ∀ c ∈ digits.toList, c ∈ Hex.alphabet

/-- Why digits are refused, each cause only where those before it do not apply. -/
inductive Refused (digits : String) : Error → Prop
  | count (odd : (Text.utf8 digits).length % 2 = 1) : Refused digits (.badHex .oddLength)
  | stranger {b : UInt8} {position : Nat} (even : (Text.utf8 digits).length % 2 = 0)
      (first : Hex.FirstStranger (Text.utf8 digits) b position) :
      Refused digits (.badHex (.badDigit b position))
  | length (even : (Text.utf8 digits).length % 2 = 0)
      (digit : ∀ b ∈ Text.utf8 digits, b ∈ Hex.codes) (other : (Text.utf8 digits).length ≠ 64) :
      Refused digits (.badLength ((Text.utf8 digits).length / 2))

def ofDigits (digits : String) : Except Error Bytes32 :=
  match Hex.decode digits with
  | .error cause => .error (.badHex cause)
  | .ok bytes => ofList bytes

theorem ofHex_eq (s : String) : ofHex s = ofDigits (withoutMark s) := rfl

section Digits

variable {digits : String}

theorem ofDigits_of_spelled (spelled : Spelled digits) :
    ∃ value, ofDigits digits = .ok value ∧
      value.toHex = "0x" ++ String.ofList (digits.toList.map Char.toLower) := by
  obtain ⟨bytes, read, written, count⟩ :=
    Hex.decode_of_alphabet spelled.digit (by rw [spelled.count])
  rw [spelled.count] at count
  obtain ⟨value, found⟩ : ∃ value, ofList? bytes = some value := ⟨_, dif_pos (by omega)⟩
  refine ⟨value, ?_, ?_⟩
  · simp [ofDigits, read, ofList, found]
  · rw [toHex, Bytes32.digits, toList_of_ofList? found, Hex.encode, written]

theorem ofDigits_of_refused {cause : Error} (refused : Refused digits cause) :
    ofDigits digits = .error cause := by
  cases refused with
  | count odd => rw [ofDigits, Hex.decode_of_odd odd]
  | stranger even first => rw [ofDigits, Hex.decode_of_firstStranger even first]
  | length even digit other =>
      have letters := (Hex.codes_utf8Chars_iff digits.toList).1 digit
      have count : (Text.utf8 digits).length = digits.length := Hex.length_utf8Chars letters
      rw [count] at even other ⊢
      obtain ⟨bytes, read, -, length⟩ := Hex.decode_of_alphabet letters even
      have wrong : bytes.length ≠ 32 := by omega
      have half : digits.length / 2 = bytes.length := by omega
      simp [ofDigits, read, ofList, ofList?, wrong, half]

theorem spelled_or_refused (digits : String) : Spelled digits ∨ ∃ cause, Refused digits cause := by
  rcases Nat.mod_two_eq_zero_or_one (Text.utf8 digits).length with even | odd
  · rcases Hex.codes_or_firstStranger (Text.utf8 digits) with digit | ⟨b, position, first⟩
    · have letters := (Hex.codes_utf8Chars_iff digits.toList).1 digit
      have count : (Text.utf8 digits).length = digits.length := Hex.length_utf8Chars letters
      by_cases length : (Text.utf8 digits).length = 64
      · exact .inl ⟨count.symm.trans length, letters⟩
      · exact .inr ⟨_, .length even digit length⟩
    · exact .inr ⟨_, .stranger even first⟩
  · exact .inr ⟨_, .count odd⟩

theorem ofDigits_eq_error_iff (cause : Error) :
    ofDigits digits = .error cause ↔ Refused digits cause := by
  refine ⟨fun failed => ?_, ofDigits_of_refused⟩
  rcases spelled_or_refused digits with spelled | ⟨other, refused⟩
  · obtain ⟨value, read, -⟩ := ofDigits_of_spelled spelled
    cases read.symm.trans failed
  · cases (ofDigits_of_refused refused).symm.trans failed
    exact refused

theorem exists_ofDigits_iff : (∃ value, ofDigits digits = .ok value) ↔ Spelled digits := by
  constructor
  · rintro ⟨value, read⟩
    refine (spelled_or_refused digits).resolve_right ?_
    rintro ⟨cause, refused⟩
    cases (ofDigits_of_refused refused).symm.trans read
  · intro spelled
    obtain ⟨value, read, -⟩ := ofDigits_of_spelled spelled
    exact ⟨value, read⟩

theorem toHex_of_ofDigits {value : Bytes32} (read : ofDigits digits = .ok value) :
    value.toHex = "0x" ++ String.ofList (digits.toList.map Char.toLower) := by
  obtain ⟨other, readOther, written⟩ := ofDigits_of_spelled (exists_ofDigits_iff.1 ⟨value, read⟩)
  cases readOther.symm.trans read
  exact written

end Digits

end Bytes32

namespace HolderSeed

def Error.ofValue : Bytes32.Error → Error
  | .badHex cause => .badHex cause
  | .badLength actual => .badLength actual

/-- A seed is a value between blanks. -/
theorem ofHex_eq (s : String) :
    ofHex s = ((Bytes32.ofHex (Text.trim s)).map mk).mapError Error.ofValue := by
  unfold ofHex Bytes32.ofHex Bytes32.ofList
  cases Hex.decode (Bytes32.withoutMark (Text.trim s)) with
  | error cause => rfl
  | ok bytes =>
      cases found : Bytes32.ofList? bytes with
      | none => simp [found, Except.map, Except.mapError, Error.ofValue]
      | some value => simp [found, Except.map, Except.mapError]

theorem ofHex_eq_ok_iff (s : String) (seed : HolderSeed) :
    ofHex s = .ok seed ↔ Bytes32.ofHex (Text.trim s) = .ok seed.bytes := by
  rw [ofHex_eq]
  cases Bytes32.ofHex (Text.trim s) with
  | error cause => simp [Except.map, Except.mapError]
  | ok value =>
      cases seed
      simp [Except.map, Except.mapError]

theorem ofHex_eq_error_iff (s : String) (cause : Error) :
    ofHex s = .error cause ↔
      ∃ same, Bytes32.ofHex (Text.trim s) = .error same ∧ cause = Error.ofValue same := by
  rw [ofHex_eq]
  cases Bytes32.ofHex (Text.trim s) <;> simp [Except.map, Except.mapError, eq_comm]

end HolderSeed

/-- A value is read from sixty-four digits behind at most one mark and from nothing else, and is
written with the same digits in lowercase; every other text is refused for one cause, the first
that applies.  What is written is read back.  A seed is read, with the same bytes, where the
text without the blanks at its ends is a value, and is refused for the same cause where not. -/
theorem hex_readers_exact (s : String) :
    (∃ digits, Bytes32.Unmarked s digits ∧
      ((∃ value, Bytes32.ofHex s = .ok value) ↔ Bytes32.Spelled digits) ∧
      (∀ value, Bytes32.ofHex s = .ok value →
        value.toHex = "0x" ++ String.ofList (digits.toList.map Char.toLower)) ∧
      ∀ cause, Bytes32.ofHex s = .error cause ↔ Bytes32.Refused digits cause) ∧
    (∀ value : Bytes32, Bytes32.ofHex value.toHex = .ok value) ∧
    (∀ seed, HolderSeed.ofHex s = .ok seed ↔ Bytes32.ofHex (Text.trim s) = .ok seed.bytes) ∧
    ∀ cause, HolderSeed.ofHex s = .error cause ↔
      ∃ same, Bytes32.ofHex (Text.trim s) = .error same ∧
        cause = HolderSeed.Error.ofValue same := by
  refine ⟨⟨Bytes32.withoutMark s, Bytes32.unmarked_withoutMark s, ?_, ?_, ?_⟩,
    Bytes32.ofHex_toHex, HolderSeed.ofHex_eq_ok_iff s, HolderSeed.ofHex_eq_error_iff s⟩
  · exact Bytes32.exists_ofDigits_iff
  · exact fun value read => Bytes32.toHex_of_ofDigits read
  · exact fun cause => Bytes32.ofDigits_eq_error_iff cause

theorem hex_readers_exact_sample :
    let text := "\u2003" ++ String.ofList (List.replicate 64 'A') ++ "\n"
    (∃ seed, HolderSeed.ofHex text = .ok seed ∧
        seed.bytes.toHex = "0x" ++ String.ofList (List.replicate 64 'a')) ∧
      Bytes32.ofHex text = .error (.badHex (.badDigit 0xE2 0)) := by
  intro text
  obtain ⟨⟨digits, unmarked, -, -, refused⟩, -, seed, -⟩ := hex_readers_exact text
  obtain ⟨⟨bare, unmarkedBare, read, written, -⟩, -⟩ := hex_readers_exact (Text.trim text)
  have plain : ∀ {s rest : String}, Bytes32.Unmarked s rest → s.toList.head? ≠ some '0' →
      rest = s := by
    rintro s rest (⟨rest⟩ | -) noMark
    · simp at noMark
    · rfl
  cases plain unmarked (by decide +kernel)
  cases plain unmarkedBare (by decide +kernel)
  obtain ⟨value, isRead⟩ := read.2
    ⟨by decide +kernel, Text.forall_mem_of_all (by decide +kernel)⟩
  have lower : (Text.trim text).toList.map Char.toLower = List.replicate 64 'a' := by
    decide +kernel
  refine ⟨⟨⟨value⟩, (seed ⟨value⟩).2 isRead, lower ▸ written value isRead⟩, ?_⟩
  exact (refused _).2 (.stranger (by decide +kernel) ⟨by decide +kernel, by decide +kernel,
    by decide +kernel⟩)

end HolderBond
