import HolderBond.Text.Utf8
import HolderBond.Text.Quoted

/-!
# Hexadecimal bytes

Bytes written as two lowercase digits each, and read back from digits of either case.
Reading works on the UTF-8 bytes of the text; an odd count is reported before any digit.
-/

set_option autoImplicit false

namespace HolderBond.Hex

def digit (n : Nat) : Char :=
  if n < 10 then Char.ofNat (48 + n) else Char.ofNat (87 + n)

def value? (b : UInt8) : Option Nat :=
  let n := b.toNat
  if 48 ≤ n && n ≤ 57 then some (n - 48)
  else if 97 ≤ n && n ≤ 102 then some (n - 87)
  else if 65 ≤ n && n ≤ 70 then some (n - 55)
  else none

def encodeChars (bytes : List UInt8) : List Char :=
  bytes.flatMap fun b => [digit (b.toNat / 16), digit (b.toNat % 16)]

def encode (bytes : List UInt8) : String :=
  String.ofList (encodeChars bytes)

inductive Error where
  | oddLength
  | badDigit (byte : UInt8) (position : Nat)
  deriving DecidableEq, Repr

/-- The wording; a bad byte is shown as the character of that number. -/
def Error.message : Error → String
  | .oddLength => "Odd number of digits"
  | .badDigit byte position =>
      let shown := Text.quotedChar (Char.ofNat byte.toNat)
      s!"Invalid character {shown} at position {position}"

/-- The bytes of paired digits, the first of which stands at `position`. -/
def decodePairs : Nat → List UInt8 → Except Error (List UInt8)
  | _, [] => .ok []
  | _, [_] => .error .oddLength
  | position, a :: b :: rest =>
      match value? a, value? b with
      | none, _ => .error (.badDigit a position)
      | some _, none => .error (.badDigit b (position + 1))
      | some high, some low => do
          let bytes ← decodePairs (position + 2) rest
          return UInt8.ofNat (16 * high + low) :: bytes

def decodeBytes (digits : List UInt8) : Except Error (List UInt8) :=
  if digits.length % 2 == 1 then .error .oddLength else decodePairs 0 digits

def decode (s : String) : Except Error (List UInt8) :=
  decodeBytes (Text.utf8 s)

/-! ## Reading what was written -/

def digitByte (n : Nat) : UInt8 :=
  UInt8.ofNat (digit n).toNat

theorem utf8EncodeChar_digit (n : Fin 16) :
    String.utf8EncodeChar (digit n) = [digitByte n] := by
  revert n
  decide

theorem value?_digitByte (n : Fin 16) : value? (digitByte n) = some n.val := by
  revert n
  decide

def digitBytes (bytes : List UInt8) : List UInt8 :=
  bytes.flatMap fun b => [digitByte (b.toNat / 16), digitByte (b.toNat % 16)]

theorem utf8_encode (bytes : List UInt8) : Text.utf8 (encode bytes) = digitBytes bytes := by
  simp only [Text.utf8, Text.utf8Chars, encode, encodeChars, digitBytes, String.toList_ofList]
  induction bytes with
  | nil => rfl
  | cons b rest ih =>
      have high := utf8EncodeChar_digit ⟨b.toNat / 16, by have := b.toNat_lt; omega⟩
      have low := utf8EncodeChar_digit ⟨b.toNat % 16, by omega⟩
      simp only [List.flatMap_cons, List.flatMap_append, List.flatMap_nil, ih] at *
      rw [high, low]
      rfl

theorem length_digitBytes (bytes : List UInt8) : (digitBytes bytes).length = 2 * bytes.length := by
  induction bytes with
  | nil => rfl
  | cons b rest ih => simp [digitBytes] at *; omega

theorem decodePairs_digitBytes (bytes : List UInt8) (position : Nat) :
    decodePairs position (digitBytes bytes) = .ok bytes := by
  induction bytes generalizing position with
  | nil => rfl
  | cons b rest ih =>
      have high := value?_digitByte ⟨b.toNat / 16, by have := b.toNat_lt; omega⟩
      have low := value?_digitByte ⟨b.toNat % 16, by omega⟩
      have split : digitBytes (b :: rest) =
          digitByte (b.toNat / 16) :: digitByte (b.toNat % 16) :: digitBytes rest := rfl
      simp only at high low
      rw [split, decodePairs, high, low]
      simp only [ih]
      have whole : 16 * (b.toNat / 16) + b.toNat % 16 = b.toNat := by omega
      simp [whole, bind, Except.bind, pure, Except.pure]

theorem decode_encode (bytes : List UInt8) : decode (encode bytes) = .ok bytes := by
  have even : ((2 * bytes.length) % 2 == 1) = false := by simp
  rw [decode, decodeBytes, utf8_encode, length_digitBytes, even]
  exact decodePairs_digitBytes bytes 0

end HolderBond.Hex
