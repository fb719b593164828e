import HolderBond.Byte.Bytes32
import HolderBond.Proofs.Text.Edges
import HolderBond.Proofs.Text.Utf8

/-!
# Which texts are hexadecimal

Pairs of digits are read exactly if there is nothing but digits, in an even number; what is read
is then written with the same digits in lowercase.  Otherwise the count is at fault, or the first
byte that is no digit of the alphabet.
-/

set_option autoImplicit false

namespace HolderBond

namespace Hex

/-! ## Digits -/

def alphabet : List Char :=
  "0123456789abcdefABCDEF".toList

def codes : List UInt8 :=
  alphabet.map fun c => UInt8.ofNat c.toNat

theorem alphabet_ascii : ∀ c ∈ alphabet, c.toNat < 0x80 :=
  Text.forall_mem_of_all (by decide)

theorem mem_codes_iff (b : UInt8) : b ∈ codes ↔ (value? b).isSome = true := by
  have known : ∀ n < 256, UInt8.ofNat n ∈ codes ↔ (value? (UInt8.ofNat n)).isSome = true := by
    decide +kernel
  have found := known b.toNat b.toNat_lt
  rwa [UInt8.ofNat_toNat] at found

theorem value?_of_mem_alphabet : ∀ c ∈ alphabet,
    ∃ n, value? (UInt8.ofNat c.toNat) = some n ∧ n < 16 ∧ digit n = c.toLower :=
  Text.forall_mem_of_all (by decide)

theorem value?_eq_none_iff (b : UInt8) : value? b = none ↔ b ∉ codes := by
  rw [mem_codes_iff, Bool.not_eq_true, Option.isSome_eq_false_iff, Option.isNone_iff_eq_none]

theorem codes_utf8Chars_iff (cs : List Char) :
    (∀ b ∈ Text.utf8Chars cs, b ∈ codes) ↔ ∀ c ∈ cs, c ∈ alphabet := by
  constructor
  · intro digits c member
    obtain ⟨b, rest, bytes, -⟩ := Text.firstGlyph_encode c []
    have first : b ∈ String.utf8EncodeChar c := bytes ▸ List.mem_cons_self
    have digit := digits b (List.mem_flatMap.2 ⟨c, member, first⟩)
    obtain ⟨d, inside, rfl⟩ := List.mem_map.1 digit
    have low := alphabet_ascii d inside
    have code : (UInt8.ofNat d.toNat).toNat = d.toNat := Text.toNat_byte (by omega)
    have same := (Text.utf8EncodeChar_of_mem_ascii (code.symm ▸ low) first).1
    rw [code] at same
    rwa [Char.toNat_inj.1 same]
  · intro digits
    rw [Text.utf8Chars_ascii cs fun c member => alphabet_ascii c (digits c member)]
    intro b member
    obtain ⟨c, inside, rfl⟩ := List.mem_map.1 member
    exact List.mem_map_of_mem (digits c inside)

theorem length_utf8Chars {cs : List Char} (digits : ∀ c ∈ cs, c ∈ alphabet) :
    (Text.utf8Chars cs).length = cs.length := by
  rw [Text.utf8Chars_ascii cs fun c member => alphabet_ascii c (digits c member), List.length_map]

def lowercase : List Char :=
  "0123456789abcdef".toList

theorem digit_mem_lowercase : ∀ n < 16, digit n ∈ lowercase := by
  decide

/-! ## The first byte that is no digit -/

/-- The first byte that is no digit, and the number of digits before it. -/
structure FirstStranger (bytes : List UInt8) (b : UInt8) (position : Nat) : Prop where
  there : bytes[position]? = some b
  strange : b ∉ codes
  before : ∀ c ∈ bytes.take position, c ∈ codes

theorem firstStranger_cons_iff {a b : UInt8} {bytes : List UInt8} {position : Nat} :
    FirstStranger (a :: bytes) b position ↔
      (a ∉ codes ∧ b = a ∧ position = 0) ∨
        (a ∈ codes ∧ ∃ earlier, position = earlier + 1 ∧ FirstStranger bytes b earlier) := by
  constructor
  · rintro ⟨there, strange, before⟩
    cases position with
    | zero =>
        cases there
        exact .inl ⟨strange, rfl, rfl⟩
    | succ position =>
        rw [List.take_succ_cons, List.forall_mem_cons] at before
        exact .inr ⟨before.1, position, rfl, there, strange, before.2⟩
  · rintro (⟨strange, rfl, rfl⟩ | ⟨digit, position, rfl, there, strange, before⟩)
    · exact ⟨rfl, strange, by simp⟩
    · exact ⟨there, strange, by simpa [digit] using before⟩

theorem not_firstStranger_nil {b : UInt8} {position : Nat} : ¬FirstStranger [] b position :=
  fun first => nomatch first.there

/-- Bytes are all digits, or there is a first one that is none. -/
theorem codes_or_firstStranger (bytes : List UInt8) :
    (∀ b ∈ bytes, b ∈ codes) ∨ ∃ b position, FirstStranger bytes b position := by
  induction bytes with
  | nil => exact .inl (by simp)
  | cons a bytes ih =>
      by_cases digit : a ∈ codes
      · rcases ih with digits | ⟨b, position, first⟩
        · exact .inl (List.forall_mem_cons.2 ⟨digit, digits⟩)
        · exact .inr ⟨b, position + 1,
            firstStranger_cons_iff.2 (.inr ⟨digit, position, rfl, first⟩)⟩
      · exact .inr ⟨a, 0, firstStranger_cons_iff.2 (.inl ⟨digit, rfl, rfl⟩)⟩

/-! ## Reading pairs -/

theorem length_encodeChars (bytes : List UInt8) :
    (encodeChars bytes).length = 2 * bytes.length := by
  induction bytes with
  | nil => rfl
  | cons b bytes ih => simp [encodeChars] at *; omega

theorem encodeChars_lowercase (bytes : List UInt8) : ∀ c ∈ encodeChars bytes, c ∈ lowercase := by
  intro c member
  obtain ⟨b, -, inside⟩ := List.mem_flatMap.1 member
  have small := b.toNat_lt
  simp only [List.mem_cons, List.not_mem_nil, or_false] at inside
  rcases inside with rfl | rfl
  · exact digit_mem_lowercase _ (by omega)
  · exact digit_mem_lowercase _ (by omega)

/-- Pairs of digits are read, and what is read is written with the same digits. -/
theorem decodePairs_of_alphabet : (cs : List Char) → (∀ c ∈ cs, c ∈ alphabet) →
    cs.length % 2 = 0 → (start : Nat) →
    ∃ bytes, decodePairs start (cs.map fun c => UInt8.ofNat c.toNat) = .ok bytes ∧
      encodeChars bytes = cs.map Char.toLower
  | [], _, _, _ => ⟨[], rfl, rfl⟩
  | [_], _, even, _ => nomatch even
  | c :: d :: cs, digits, even, start => by
      simp only [List.forall_mem_cons] at digits
      have evenRest : cs.length % 2 = 0 := by simpa [Nat.add_assoc] using even
      obtain ⟨high, highValue, highSmall, highDigit⟩ := value?_of_mem_alphabet c digits.1
      obtain ⟨low, lowValue, lowSmall, lowDigit⟩ := value?_of_mem_alphabet d digits.2.1
      obtain ⟨bytes, read, written⟩ :=
        decodePairs_of_alphabet cs digits.2.2 evenRest (start + 2)
      refine ⟨UInt8.ofNat (16 * high + low) :: bytes, ?_, ?_⟩
      · simp only [List.map_cons, decodePairs, highValue, lowValue, read]
        rfl
      · have byte : (UInt8.ofNat (16 * high + low)).toNat = 16 * high + low :=
          Text.toNat_byte (by omega)
        have front : (16 * high + low) / 16 = high := by omega
        have back : (16 * high + low) % 16 = low := by omega
        rw [encodeChars, List.flatMap_cons, ← encodeChars, written, byte, front, back, highDigit,
          lowDigit]
        rfl

/-- The first byte that is no digit is what is reported. -/
theorem decodePairs_of_firstStranger {bytes : List UInt8} {b : UInt8} {position : Nat}
    (first : FirstStranger bytes b position) (even : bytes.length % 2 = 0) (start : Nat) :
    decodePairs start bytes = .error (.badDigit b (start + position)) := by
  induction start, bytes using decodePairs.induct generalizing position with
  | case1 => exact absurd first not_firstStranger_nil
  | case2 => simp at even
  | case3 start a c rest noDigit =>
      rcases firstStranger_cons_iff.1 first with ⟨-, rfl, rfl⟩ | ⟨digit, -⟩
      · simp [decodePairs, noDigit]
      · exact absurd digit ((value?_eq_none_iff a).1 noDigit)
  | case4 start a c rest high noDigit highValue =>
      have digit : a ∈ codes := (mem_codes_iff a).2 (by simp [highValue])
      rcases firstStranger_cons_iff.1 first with ⟨strange, -⟩ | ⟨-, earlier, rfl, second⟩
      · exact absurd digit strange
      · rcases firstStranger_cons_iff.1 second with ⟨-, rfl, rfl⟩ | ⟨other, -⟩
        · simp [decodePairs, highValue, noDigit]
        · exact absurd other ((value?_eq_none_iff c).1 noDigit)
  | case5 start a c rest high low lowValue highValue ih =>
      have digit : a ∈ codes := (mem_codes_iff a).2 (by simp [highValue])
      have other : c ∈ codes := (mem_codes_iff c).2 (by simp [lowValue])
      rcases firstStranger_cons_iff.1 first with ⟨strange, -⟩ | ⟨-, earlier, rfl, second⟩
      · exact absurd digit strange
      rcases firstStranger_cons_iff.1 second with ⟨strange, -⟩ | ⟨-, earlier, rfl, third⟩
      · exact absurd other strange
      have evenRest : rest.length % 2 = 0 := by simpa [Nat.add_assoc] using even
      have place : start + 2 + earlier = start + (earlier + 1 + 1) := by omega
      simp only [decodePairs, highValue, lowValue, ih third evenRest, place]
      rfl

/-! ## Whole texts -/

section Text

variable {s : String}

theorem decode_of_alphabet (digits : ∀ c ∈ s.toList, c ∈ alphabet) (even : s.length % 2 = 0) :
    ∃ bytes, decode s = .ok bytes ∧ encodeChars bytes = s.toList.map Char.toLower ∧
      2 * bytes.length = s.length := by
  obtain ⟨bytes, read, written⟩ := decodePairs_of_alphabet s.toList digits even 0
  have codes := Text.utf8Chars_ascii s.toList fun c member => alphabet_ascii c (digits c member)
  have count : (Text.utf8 s).length = s.length := length_utf8Chars digits
  refine ⟨bytes, ?_, written, ?_⟩
  · rw [decode, decodeBytes, count, even]
    rwa [← codes] at read
  · rw [← length_encodeChars, written, List.length_map]
    rfl

theorem decode_of_odd (odd : (Text.utf8 s).length % 2 = 1) : decode s = .error .oddLength := by
  simp [decode, decodeBytes, odd]

theorem decode_of_firstStranger {b : UInt8} {position : Nat}
    (even : (Text.utf8 s).length % 2 = 0) (first : FirstStranger (Text.utf8 s) b position) :
    decode s = .error (.badDigit b position) := by
  rw [decode, decodeBytes, even, decodePairs_of_firstStranger first even 0, Nat.zero_add]
  rfl

end Text

end Hex

end HolderBond
