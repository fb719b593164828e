import HolderBond.Byte.Bytes32
import HolderBond.Digest.Algorithm

/-!
# Commitments

BLAKE3 digests of tagged preimages.  A preimage is its parts one after another, with no
lengths between them; the salt comes last.
-/

set_option autoImplicit false

namespace HolderBond.Commitment

def identityTag : List UInt8 :=
  Text.utf8 "identity-commitment:"

def fundsTag : List UInt8 :=
  Text.utf8 "funds-commitment:"

def colon : UInt8 := 58

def identityParts (source : String) (salt : List UInt8) : List (List UInt8) :=
  [identityTag, Text.utf8 source, salt]

def identityPreimage (source : String) (salt : List UInt8) : List UInt8 :=
  (identityParts source salt).flatten

def fundsParts (key rail : String) (salt : List UInt8) : List (List UInt8) :=
  [fundsTag, Text.utf8 rail, [colon], Text.utf8 key, salt]

def fundsPreimage (key rail : String) (salt : List UInt8) : List UInt8 :=
  (fundsParts key rail salt).flatten

def ofIdentity (source : String) (salt : List UInt8) : Bytes32 :=
  HashAlgorithm.blake3.digestParts (identityParts source salt)

def ofFunds (key rail : String) (salt : List UInt8) : Bytes32 :=
  HashAlgorithm.blake3.digestParts (fundsParts key rail salt)

/-- What stands in for a viewing key: the public nullifier of the funds proof in digits. -/
def nullifierProxy (nullifier : List UInt8) : String :=
  Hex.encode nullifier

end HolderBond.Commitment
