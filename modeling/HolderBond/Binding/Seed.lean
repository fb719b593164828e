import HolderBond.Binding.Commitment
import HolderBond.Text.Blank

/-!
# Holder seeds

The secret of a session, from which both commitments take their salts: the identity
commitment the first sixteen bytes, the funds commitment the others.
-/

set_option autoImplicit false

namespace HolderBond

structure HolderSeed where
  bytes : Bytes32
  deriving DecidableEq

inductive HolderSeed.Error where
  | badHex (cause : Hex.Error)
  | badLength (actual : Nat)
  deriving DecidableEq

namespace HolderSeed

def Error.message : Error → String
  | .badHex cause => "invalid input: invalid seed hex: " ++ cause.message
  | .badLength actual => s!"invalid key length: expected 32, got {actual}"

/-- Reads the digits of a seed, after blanks and one optional `0x`. -/
def ofHex (s : String) : Except Error HolderSeed :=
  match Hex.decode (Bytes32.withoutMark (Text.trim s)) with
  | .error cause => .error (.badHex cause)
  | .ok bytes =>
      match Bytes32.ofList? bytes with
      | some value => .ok ⟨value⟩
      | none => .error (.badLength bytes.length)

def toHex (seed : HolderSeed) : String :=
  seed.bytes.digits

/-- The form shown to developers, which tells nothing. -/
def shown (_seed : HolderSeed) : String :=
  "HolderSecretSeed(<redacted>)"

def identitySalt (seed : HolderSeed) : List UInt8 :=
  seed.bytes.toList.take 16

def fundsSalt (seed : HolderSeed) : List UInt8 :=
  seed.bytes.toList.drop 16

def tag : List UInt8 :=
  Text.utf8 "holder-secret-seed:"

def parts (identifier : String) (walletSecret : List UInt8) (scope : String) : List (List UInt8) :=
  [tag, Text.utf8 identifier, [Commitment.colon], walletSecret, [Commitment.colon], Text.utf8 scope]

def preimage (identifier : String) (walletSecret : List UInt8) (scope : String) : List UInt8 :=
  (parts identifier walletSecret scope).flatten

def derive (identifier : String) (walletSecret : List UInt8) (scope : String) : HolderSeed :=
  ⟨HashAlgorithm.blake3.digestParts (parts identifier walletSecret scope)⟩

end HolderSeed

end HolderBond
