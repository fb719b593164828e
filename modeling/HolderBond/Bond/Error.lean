import HolderBond.Binding.Params

/-!
# Faults of making and verifying bonds

A verifier that is handed in may give any fault, also those that nothing here runs into: digits
refused for other reasons, lengths other than thirty-two, values that could not be written.
-/

set_option autoImplicit false

namespace HolderBond

/-- Why digits are refused, by whomever they are read. -/
inductive DigitFault where
  | badCharacter (c : Char) (position : Nat)
  | oddLength
  | badLength
  deriving DecidableEq

namespace DigitFault

def message : DigitFault → String
  | .badCharacter c position =>
      let shown := Text.quotedChar c
      s!"Invalid character {shown} at position {position}"
  | .oddLength => "Odd number of digits"
  | .badLength => "Invalid string length"

def ofHex : Hex.Error → DigitFault
  | .oddLength => .oddLength
  | .badDigit byte position => .badCharacter (Char.ofNat byte.toNat) position

end DigitFault

/-- Why a value is refused, by this library or by a verifier. -/
inductive CoreError where
  | badLength (expected actual : Nat)
  | badDigits (cause : DigitFault)
  | invalid (text : String)
  | serialization (text : String)
  deriving DecidableEq

namespace CoreError

def message : CoreError → String
  | .badLength expected actual => s!"invalid byte length: expected {expected}, got {actual}"
  | .badDigits cause => "invalid hex: " ++ cause.message
  | .invalid text => "validation error: " ++ text
  | .serialization text => "serialization error: " ++ text

/-- What lies behind it, the nearest first. -/
def causes : CoreError → List String
  | .badDigits cause => [cause.message]
  | .serialization text => [text]
  | .badLength _ _ | .invalid _ => []

def bytes : Bytes32.Error → CoreError
  | .badHex cause => .badDigits (.ofHex cause)
  | .badLength actual => .badLength 32 actual

def ofValue : ValueError → CoreError
  | .bytes cause => .bytes cause
  | .invalid text => .invalid text

instance : Coe ValueError CoreError :=
  ⟨ofValue⟩

@[simp] theorem message_ofValue (error : ValueError) : (ofValue error).message = error.message := by
  rcases error with (_ | _) | _
  · next cause => cases cause <;> rfl
  · rfl
  · rfl

end CoreError

/-- Why a bond cannot be made, or a verifier gives no answer. -/
inductive BondError where
  | missingIdentityProofs
  | missingFundsProof
  | verifier (text : String)
  | value (cause : CoreError)
  | serialization (text : String)
  deriving DecidableEq

namespace BondError

def message : BondError → String
  | .missingIdentityProofs => "identity proof missing proofs"
  | .missingFundsProof => "funds proof missing proof data"
  | .verifier text => "verifier error: " ++ text
  | .value cause => "core error: " ++ cause.message
  | .serialization text => "serialization error: " ++ text

def causes : BondError → List String
  | .value cause => cause.message :: cause.causes
  | _ => []

end BondError

end HolderBond
