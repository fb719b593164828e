import HolderBond.Binding.Seed
import HolderBond.Bond.Basic
import HolderBond.Bond.Error
import HolderBond.Bond.Policy
import HolderBond.Time.Instant

/-!
# Making bonds

A bond is made from a policy, two bundles and a seed, at an instant.  It is refused when a
bundle lacks its proofs or the parameters are void; what is merely suspicious becomes a
warning beside the bond.
-/

set_option autoImplicit false

namespace HolderBond

structure BondRequest where
  policy : BondPolicy
  identity : IdentityBundle
  funds : FundsBundle
  seed : HolderSeed
  note : Option String
  devMode : Option Bool

inductive Warning where
  /-- There is no identifier, and the query result stands in for it. -/
  | weakBinding
  | lowThreshold (proven required : UInt64)
  | otherScope (proven required : UInt64)
  | otherRail (actual required : String)
  deriving DecidableEq

def Warning.message : Warning → String
  | .weakBinding =>
      "identity proof has no unique identifier; the identity commitment falls back to the " ++
        "query result, so the holder binding is weaker"
  | .lowThreshold proven required =>
      let proven := toString proven.toNat
      let required := toString required.toNat
      s!"funds proof threshold {proven} is below the policy threshold {required}"
  | .otherScope proven required =>
      let proven := toString proven.toNat
      let required := toString required.toNat
      s!"funds proof was generated for scope {proven} but the policy scope is {required}"
  | .otherRail actual required =>
      s!"funds proof is on rail {actual} but the policy requires {required}; " ++
        "the bond will not verify"

structure Creation where
  bond : Bond
  warnings : List Warning

/-- What stands for the holder in the identity commitment. -/
def IdentityBundle.source (bundle : IdentityBundle) : String :=
  bundle.resolvedIdentifier.getD bundle.queryResult.render

def FundsInputs.balance (inputs : FundsInputs) : Option BalanceSnapshot :=
  if inputs.snapshotHeight.isNone && inputs.snapshotAnchor.isNone then none
  else some ⟨inputs.snapshotHeight, inputs.snapshotAnchor.map Hex.encode⟩

namespace BondRequest

def identityCommitment (request : BondRequest) : Bytes32 :=
  Commitment.ofIdentity request.identity.source request.seed.identitySalt

def fundsCommitment (request : BondRequest) : Bytes32 :=
  Commitment.ofFunds (Commitment.nullifierProxy request.funds.publicInputs.nullifier)
    request.funds.effectiveRail request.seed.fundsSalt

def bindingInput (request : BondRequest) (epoch : UInt64) : BindingInput where
  identity := request.identityCommitment
  funds := request.fundsCommitment
  scopeId := request.policy.funds.scopeId
  epoch := epoch
  customData := none

def thresholdMet (request : BondRequest) : Bool :=
  request.funds.publicInputs.threshold ≥ request.policy.funds.threshold

/-- The rail that the policy requires; by default the one that the funds are on. -/
def requiredRail (request : BondRequest) : String :=
  request.policy.funds.railId.getD request.funds.effectiveRail

def warnings (request : BondRequest) : List Warning :=
  let inputs := request.funds.publicInputs
  let policy := request.policy.funds
  let rail := request.funds.effectiveRail
  (if request.identity.resolvedIdentifier.isNone then [.weakBinding] else []) ++
    (if request.thresholdMet then []
      else [.lowThreshold inputs.threshold policy.threshold]) ++
    (if inputs.scopeId = policy.scopeId then []
      else [.otherScope inputs.scopeId policy.scopeId]) ++
    (if request.requiredRail = rail then [] else [.otherRail rail request.requiredRail])

/-- The second at which a bond made at `epoch` expires, the last one there is at most. -/
def validUntil (request : BondRequest) (epoch : UInt64) : UInt64 :=
  UInt64.ofNat (min (epoch.toNat + request.policy.validity.toNat) (UInt64.size - 1))

def identityPart (request : BondRequest) : IdentityPart where
  bundle := request.identity
  commitment := request.identityCommitment
  uniqueIdentifier := request.identity.resolvedIdentifier
  disclosures := Disclosures.ofQuery request.identity.queryResult

def policySnapshot (request : BondRequest) : PolicySnapshot where
  policyId := request.policy.funds.policyId
  threshold := request.policy.funds.threshold
  currency := request.policy.funds.currency
  currencyCode := request.policy.funds.currencyCode
  railId := request.requiredRail
  scopeId := request.policy.funds.scopeId

def fundsPart (request : BondRequest) : FundsPart where
  bundle := request.funds
  commitment := request.fundsCommitment
  policy := request.policySnapshot
  thresholdMet := request.thresholdMet
  balance := request.funds.publicInputs.balance

def metadata (request : BondRequest) (epoch : UInt64) : Metadata where
  purpose := request.policy.purpose
  scope := request.policy.scope
  validUntil := request.validUntil epoch
  devMode := request.devMode
  note := request.note
  domain := request.policy.domain

/-- The name of a bond: its milliseconds, and eight digits that tell apart those made in the
same one. -/
def bondId (now : Instant) (suffix : UInt32) : String :=
  let milliseconds := toString now.milliseconds
  let digits := Hex.encode (Words.toBigEndian suffix)
  s!"bond_{milliseconds}_{digits}"

/-- The bond that a request gives, whether or not the request is in order. -/
def bond (request : BondRequest) (params : BindingParams) (now : Instant) (suffix : UInt32) :
    Bond where
  version := Bond.currentVersion
  id := bondId now suffix
  timestamp := now.timestamp
  binding := HolderBinding.derive (request.bindingInput now.epoch) params
  identity := request.identityPart
  funds := request.fundsPart
  metadata := request.metadata now.epoch

/-- Makes a bond, unless a bundle lacks its proofs or the parameters are void. -/
def create (request : BondRequest) (params : BindingParams) (now : Instant) (suffix : UInt32) :
    Except BondError Creation :=
  if request.identity.proofs.isEmpty then .error .missingIdentityProofs
  else if request.funds.proof.isEmpty then .error .missingFundsProof
  else
    match params.validate with
    | .error cause => .error (.value cause)
    | .ok () => .ok ⟨request.bond params now suffix, request.warnings⟩

end BondRequest

end HolderBond
