import HolderBond.Byte.Bytes32
import HolderBond.Digest.Blake3
import HolderBond.Digest.Sha256

/-!
# Hash algorithms

The two hash functions that a binding protocol may select, each from bytes to thirty-two
bytes.  Nothing else in the library looks inside them.
-/

set_option autoImplicit false

namespace HolderBond

inductive HashAlgorithm where
  | blake3
  | sha256
  deriving DecidableEq, Repr

namespace HashAlgorithm

def name : HashAlgorithm → String
  | .blake3 => "blake3"
  | .sha256 => "sha256"

def ofName? (s : String) : Option HashAlgorithm :=
  if s = "blake3" then some .blake3 else if s = "sha256" then some .sha256 else none

theorem ofName?_name (a : HashAlgorithm) : ofName? a.name = some a := by
  cases a <;> decide

def digestBytes : HashAlgorithm → List UInt8 → List UInt8
  | .blake3 => Blake3.digest
  | .sha256 => Sha256.digest

theorem length_digestBytes (a : HashAlgorithm) (message : List UInt8) :
    (a.digestBytes message).length = 32 := by
  cases a
  · exact Blake3.length_digest message
  · exact Sha256.length_digest message

def digest (a : HashAlgorithm) (message : List UInt8) : Bytes32 :=
  ⟨⟨(a.digestBytes message).toArray, by simpa using a.length_digestBytes message⟩⟩

/-- The digest of parts read one after another. -/
def digestParts (a : HashAlgorithm) (parts : List (List UInt8)) : Bytes32 :=
  a.digest parts.flatten

end HashAlgorithm

end HolderBond
