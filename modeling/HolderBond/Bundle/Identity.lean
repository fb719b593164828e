import HolderBond.Shape.Basic
import HolderBond.Text.Blank

/-!
# Identity bundles

What an identity provider hands over: sub-proofs, the result of the query that was put to
it, and possibly an identifier of the holder.  None of it is interpreted here beyond its
shape; unknown members of a sub-proof are kept.
-/

set_option autoImplicit false

namespace HolderBond

open Fields

structure SubProof where
  name : String
  version : String
  proof : String
  publicInputs : List String
  vkeyHash : String
  index : UInt32
  total : UInt32
  extra : Members
  deriving DecidableEq

def SubProof.shape : Shape SubProof :=
  .via
    (.extended "IdentitySubProof" <|
      field "name" .text <|
      field "version" .text <|
      field "proof" .text <|
      fieldOr "publicInputs" [] (.list .text) <|
      field "vkeyHash" .text <|
      field "index" .word <|
      field "total" .word .nil)
    { make := fun ((name, version, proof, publicInputs, vkeyHash, index, total, ()), extra) =>
        ⟨name, version, proof, publicInputs, vkeyHash, index, total, extra⟩
      view := fun p =>
        ((p.name, p.version, p.proof, p.publicInputs, p.vkeyHash, p.index, p.total, ()), p.extra)
      make_view := fun _ => rfl
      view_make := fun _ => rfl }

structure IdentityBundle where
  proofId : String
  uniqueIdentifier : Option String
  proofs : List SubProof
  queryResult : FreeForm
  requestId : String
  policy : Option FreeForm
  deriving DecidableEq

namespace IdentityBundle

def shape : Shape IdentityBundle :=
  .via
    (.record "IdentityProofBundle" true <|
      field "proofId" .text <|
      optional "uniqueIdentifier" .text <|
      fieldOr "proofs" [] (.list SubProof.shape) <|
      fieldOr "queryResult" .null .value <|
      field "requestId" .text <|
      optional "policy" .value .nil)
    { make := fun (proofId, uniqueIdentifier, proofs, queryResult, requestId, policy, ()) =>
        ⟨proofId, uniqueIdentifier, proofs, queryResult, requestId, policy⟩
      view := fun b =>
        (b.proofId, b.uniqueIdentifier, b.proofs, b.queryResult, b.requestId, b.policy, ())
      make_view := fun _ => rfl
      view_make := fun _ => rfl }

/-- The identifier without surrounding blanks, unless nothing is left of it. -/
def resolvedIdentifier (bundle : IdentityBundle) : Option String :=
  (bundle.uniqueIdentifier.map Text.trim).filter fun id => !id.isEmpty

def hasQueryResult (bundle : IdentityBundle) : Bool :=
  match bundle.queryResult.tree with
  | .null => false
  | .object members => !members.isEmpty
  | _ => true

end IdentityBundle

end HolderBond
