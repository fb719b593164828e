import HolderBond.Binding.Basic
import HolderBond.Bond.Disclosures
import HolderBond.Bundle.Funds
import HolderBond.Bundle.Identity

/-!
# Bonds

A bond ties an identity bundle and a funds bundle together by a holder binding.  It is made
once and never changed; everything that a later check needs travels inside it.
-/

set_option autoImplicit false

namespace HolderBond

open Fields

structure IdentityPart where
  bundle : IdentityBundle
  commitment : Bytes32
  uniqueIdentifier : Option String
  disclosures : Disclosures
  deriving DecidableEq

def IdentityPart.shape : Shape IdentityPart :=
  .via
    (.record "IdentityComponent" true <|
      field "proof" IdentityBundle.shape <|
      field "commitment" Bytes32.shape <|
      optional "uniqueIdentifier" .text <|
      field "disclosures" Disclosures.shape .nil)
    { make := fun (bundle, commitment, uniqueIdentifier, disclosures, ()) =>
        ⟨bundle, commitment, uniqueIdentifier, disclosures⟩
      view := fun i => (i.bundle, i.commitment, i.uniqueIdentifier, i.disclosures, ())
      make_view := fun _ => rfl
      view_make := fun _ => rfl }

/-- The demand on funds that a bond was made against. -/
structure PolicySnapshot where
  policyId : UInt64
  threshold : UInt64
  currency : String
  currencyCode : UInt32
  railId : String
  scopeId : UInt64
  deriving DecidableEq

def PolicySnapshot.shape : Shape PolicySnapshot :=
  .via
    (.record "VerifiedPolicy" true <|
      field "policyId" .long <|
      field "threshold" .long <|
      field "currency" .text <|
      fieldOr "currencyCode" 0 .word <|
      field "railId" .text <|
      field "scopeId" .long .nil)
    { make := fun (policyId, threshold, currency, currencyCode, railId, scopeId, ()) =>
        ⟨policyId, threshold, currency, currencyCode, railId, scopeId⟩
      view := fun p =>
        (p.policyId, p.threshold, p.currency, p.currencyCode, p.railId, p.scopeId, ())
      make_view := fun _ => rfl
      view_make := fun _ => rfl }

structure BalanceSnapshot where
  blockHeight : Option UInt64
  anchor : Option String
  deriving DecidableEq

def BalanceSnapshot.shape : Shape BalanceSnapshot :=
  .via
    (.record "BalanceSnapshot" true <|
      optional "blockHeight" .long <|
      optional "anchor" .text .nil)
    { make := fun (blockHeight, anchor, ()) => ⟨blockHeight, anchor⟩
      view := fun s => (s.blockHeight, s.anchor, ())
      make_view := fun _ => rfl
      view_make := fun _ => rfl }

structure FundsPart where
  bundle : FundsBundle
  commitment : Bytes32
  policy : PolicySnapshot
  thresholdMet : Bool
  balance : Option BalanceSnapshot
  deriving DecidableEq

def FundsPart.shape : Shape FundsPart :=
  .via
    (.record "FundsComponent" true <|
      field "proof" FundsBundle.shape <|
      field "commitment" Bytes32.shape <|
      field "verifiedPolicy" PolicySnapshot.shape <|
      field "thresholdMet" .flag <|
      optional "balanceSnapshot" BalanceSnapshot.shape .nil)
    { make := fun (bundle, commitment, policy, thresholdMet, balance, ()) =>
        ⟨bundle, commitment, policy, thresholdMet, balance⟩
      view := fun f => (f.bundle, f.commitment, f.policy, f.thresholdMet, f.balance, ())
      make_view := fun _ => rfl
      view_make := fun _ => rfl }

structure Metadata where
  purpose : String
  scope : String
  /-- The last second at which the bond has not expired. -/
  validUntil : UInt64
  devMode : Option Bool
  note : Option String
  domain : Option String
  deriving DecidableEq

def Metadata.shape : Shape Metadata :=
  .via
    (.record "BondMetadata" true <|
      field "purpose" .text <|
      field "scope" .text <|
      field "validUntil" .long <|
      optional "devMode" .flag <|
      optional "note" .text <|
      optional "domain" .text .nil)
    { make := fun (purpose, scope, validUntil, devMode, note, domain, ()) =>
        ⟨purpose, scope, validUntil, devMode, note, domain⟩
      view := fun m => (m.purpose, m.scope, m.validUntil, m.devMode, m.note, m.domain, ())
      make_view := fun _ => rfl
      view_make := fun _ => rfl }

/-- An identity and funds bound to one holder. -/
structure Bond where
  version : String
  id : String
  /-- The time of making, in milliseconds. -/
  timestamp : UInt64
  binding : HolderBinding
  identity : IdentityPart
  funds : FundsPart
  metadata : Metadata
  deriving DecidableEq

namespace Bond

def currentVersion : String :=
  "1.0.0"

def shape : Shape Bond :=
  .via
    (.record "BoundIdentityProof" true <|
      field "version" .text <|
      field "bondId" .text <|
      field "timestamp" .long <|
      field "holderBinding" HolderBinding.shape <|
      field "identity" IdentityPart.shape <|
      field "funds" FundsPart.shape <|
      field "metadata" Metadata.shape .nil)
    { make := fun (version, id, timestamp, binding, identity, funds, metadata, ()) =>
        ⟨version, id, timestamp, binding, identity, funds, metadata⟩
      view := fun b =>
        (b.version, b.id, b.timestamp, b.binding, b.identity, b.funds, b.metadata, ())
      make_view := fun _ => rfl
      view_make := fun _ => rfl }

def isExpiredAt (bond : Bond) (now : UInt64) : Bool :=
  now > bond.metadata.validUntil

end Bond

end HolderBond
