import HolderBond.Byte.Base64Url
import HolderBond.Disk.Access
import HolderBond.Json.Error
import HolderBond.Url.Basic

/-!
# Faults of encoding and storing bonds
-/

set_option autoImplicit false

namespace HolderBond

inductive LinkError where
  | badUrl (cause : Url.Error)
  | noProof
  deriving DecidableEq

def LinkError.message : LinkError → String
  | .badUrl cause => cause.message
  | .noProof => "missing 'proof' parameter"

inductive StoreError where
  | decoding (cause : Base64Url.Error)
  | serialization (cause : Json.Error)
  | link (cause : LinkError)
  | file (cause : FileFault)
  | backend (text : String)
  deriving DecidableEq

namespace StoreError

def message : StoreError → String
  | .decoding cause => "base64 decoding failed: " ++ cause.message
  | .serialization cause => "serialization error: " ++ cause.message
  | .link cause => "invalid share URL: " ++ cause.message
  | .file cause => "storage I/O error: " ++ cause.message
  | .backend text => "storage backend error: " ++ text

def cause? : StoreError → Option String
  | .decoding cause => some cause.message
  | .serialization cause => some cause.message
  | .file cause => some cause.message
  | _ => none

end StoreError

end HolderBond
