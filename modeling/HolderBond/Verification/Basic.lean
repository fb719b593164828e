import HolderBond.Bond.Basic
import HolderBond.Bond.Error
import HolderBond.Verification.Verdict

/-!
# Verifying bonds

The bundles' own proofs are left to verifiers that are handed in; without them only the
presence of proofs is checked.  Every check is made whatever the others say, and a verifier
that fails counts as one that says no.
-/

set_option autoImplicit false

namespace HolderBond

structure VerificationSettings where
  maxEpochAge : UInt64
  deriving DecidableEq

namespace VerificationSettings

def standard : VerificationSettings :=
  ⟨30 * 24 * 60 * 60⟩

def settings : Settings (UInt64 × Unit) :=
  .cons "max_epoch_age_secs" standard.maxEpochAge (.natural .long) .nil

def correspondence : Correspondence (UInt64 × Unit) VerificationSettings where
  make := fun (maxEpochAge, ()) => ⟨maxEpochAge⟩
  view := fun s => (s.maxEpochAge, ())
  make_view := fun _ => rfl
  view_make := fun _ => rfl

def shape : Shape VerificationSettings :=
  .via (.record "VerificationConfig" true settings.fields) correspondence

end VerificationSettings

inductive Outcome where
  | answered (verified : Bool)
  | failed (cause : BondError)
  | crashed
  deriving DecidableEq

namespace Outcome

/-- The answer, `false` if there is none. -/
def verified : Outcome → Bool
  | .answered verified => verified
  | _ => false

/-- The report on a verifier that gave no answer; `side` says whose proof it was asked about. -/
def report? (side : String) : Outcome → Option String
  | .answered _ => none
  | .failed cause =>
      let message := cause.message
      some s!"{side} verification failed: {message}"
  | .crashed => some s!"{side} verifier panicked"

end Outcome

abbrev IdentityVerifier := IdentityBundle → Outcome

abbrev FundsVerifier := FundsBundle → Outcome

/-- Asks for at least one sub-proof. -/
def IdentityVerifier.structural : IdentityVerifier := fun bundle =>
  .answered !bundle.proofs.isEmpty

def FundsVerifier.structural : FundsVerifier := fun bundle =>
  .answered !bundle.proof.isEmpty

structure Verifier where
  params : BindingParams
  settings : VerificationSettings
  identity : IdentityVerifier
  funds : FundsVerifier

namespace Verifier

def structural (params : BindingParams) (settings : VerificationSettings) : Verifier where
  params := params
  settings := settings
  identity := .structural
  funds := .structural

def bindingInput (bond : Bond) : BindingInput where
  identity := bond.identity.commitment
  funds := bond.funds.commitment
  scopeId := bond.binding.scopeId
  epoch := bond.binding.epoch
  customData := none

/-- Whether an epoch is neither later than `now` nor older than allowed. -/
def inWindow (settings : VerificationSettings) (epoch now : UInt64) : Bool :=
  now.toNat - settings.maxEpochAge.toNat ≤ epoch.toNat && epoch ≤ now

def checkIdentity (bond : Bond) (outcome : Outcome) : IdentityChecks where
  queryResultPresent := bond.identity.bundle.hasQueryResult
  disclosuresPresent := !bond.identity.disclosures.isEmpty
  proofVerified := outcome.verified

def checkFunds (bond : Bond) (outcome : Outcome) : FundsChecks where
  proofVerified := outcome.verified
  thresholdMet := bond.funds.thresholdMet
  railMatched := bond.funds.bundle.effectiveRail == bond.funds.policy.railId

/-- The checks of the binding; no record of spent nullifiers is kept. -/
def checkBinding (verifier : Verifier) (bond : Bond) (now : UInt64) : BindingChecks :=
  let (bindingMatched, nullifierMatched) :=
    bond.binding.agrees (bindingInput bond) verifier.params
  { bindingMatched
    nullifierMatched
    scopeMatched := bond.binding.scopeId == bond.funds.policy.scopeId
    epochInWindow := inWindow verifier.settings bond.binding.epoch now
    nullifierUnused := true }

def checkExpiry (bond : Bond) (now : UInt64) : ExpiryCheck where
  validUntil := bond.metadata.validUntil
  checkedAt := now
  expired := bond.isExpiredAt now

def reports (identity funds : Outcome) : Option String :=
  match (identity.report? "identity").toList ++ (funds.report? "funds").toList with
  | [] => none
  | texts => some ("; ".intercalate texts)

/-- The verdict on a bond at a second. -/
def verifyAt (verifier : Verifier) (bond : Bond) (now : UInt64) : Verdict :=
  let identity := verifier.identity bond.identity.bundle
  let funds := verifier.funds bond.funds.bundle
  .ofChecks
    { identity := checkIdentity bond identity
      funds := checkFunds bond funds
      binding := verifier.checkBinding bond now
      expiry := checkExpiry bond now }
    (reports identity funds)

end Verifier

end HolderBond
