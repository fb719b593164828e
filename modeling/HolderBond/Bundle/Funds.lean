import HolderBond.Shape.Basic
import HolderBond.Text.Blank

/-!
# Funds bundles

A proof of funds with its public inputs, and the rail it was made on.  Unknown members of
either are kept.
-/

set_option autoImplicit false

namespace HolderBond

open Fields

structure FundsInputs where
  threshold : UInt64
  currencyCode : UInt32
  custodianId : Option UInt32
  epoch : UInt64
  scopeId : UInt64
  policyId : UInt64
  nullifier : List UInt8
  custodianKeyHash : Option (List UInt8)
  snapshotHeight : Option UInt64
  snapshotAnchor : Option (List UInt8)
  /-- Members that nothing here interprets. -/
  extra : Members
  deriving DecidableEq

def FundsInputs.shape : Shape FundsInputs :=
  .via
    (.extended "FundsPublicInputs" <|
      field "threshold_raw" .long <|
      field "required_currency_code" .word <|
      optional "required_custodian_id" .word <|
      field "current_epoch" .long <|
      field "verifier_scope_id" .long <|
      field "policy_id" .long <|
      field "nullifier" .bytes <|
      optional "custodian_pubkey_hash" .bytes <|
      optional "snapshot_block_height" .long <|
      optional "snapshot_anchor_orchard" .bytes .nil)
    { make := fun ((threshold, currencyCode, custodianId, epoch, scopeId, policyId, nullifier,
          custodianKeyHash, snapshotHeight, snapshotAnchor, ()), extra) =>
        ⟨threshold, currencyCode, custodianId, epoch, scopeId, policyId, nullifier,
          custodianKeyHash, snapshotHeight, snapshotAnchor, extra⟩
      view := fun i =>
        ((i.threshold, i.currencyCode, i.custodianId, i.epoch, i.scopeId, i.policyId,
          i.nullifier, i.custodianKeyHash, i.snapshotHeight, i.snapshotAnchor, ()), i.extra)
      make_view := fun _ => rfl
      view_make := fun _ => rfl }

structure FundsBundle where
  railId : String
  circuitVersion : UInt32
  proof : List UInt8
  publicInputs : FundsInputs
  extra : Members
  deriving DecidableEq

namespace FundsBundle

/-- The documents of funds bundles; an empty rail is left out. -/
def shape : Shape FundsBundle :=
  .via
    (.extended "FundsProofBundle" <|
      .cons "rail_id" .nonemptyText .text <|
      field "circuit_version" .word <|
      field "proof" .bytes <|
      field "public_inputs" FundsInputs.shape .nil)
    { make := fun ((railId, circuitVersion, proof, publicInputs, ()), extra) =>
        ⟨railId, circuitVersion, proof, publicInputs, extra⟩
      view := fun b => ((b.railId, b.circuitVersion, b.proof, b.publicInputs, ()), b.extra)
      make_view := fun _ => rfl
      view_make := fun _ => rfl }

def defaultRail : String :=
  "CUSTODIAL_ATTESTATION"

/-- The rail that counts: the one named, unless it is blank. -/
def effectiveRail (bundle : FundsBundle) : String :=
  if (Text.trim bundle.railId).isEmpty then defaultRail else bundle.railId

end FundsBundle

end HolderBond
