import HolderBond.Shape.Basic

/-!
# Verdicts

The outcome of verifying a bond: every single check, the flags of the groups of checks, and
one flag for all of them.
-/

set_option autoImplicit false

namespace HolderBond

open Fields

structure IdentityChecks where
  queryResultPresent : Bool
  disclosuresPresent : Bool
  proofVerified : Bool
  deriving DecidableEq

namespace IdentityChecks

def all (c : IdentityChecks) : Bool :=
  c.queryResultPresent && c.disclosuresPresent && c.proofVerified

def shape : Shape IdentityChecks :=
  .via
    (.record "IdentityDetails" true <|
      field "queryResultPresent" .flag <|
      field "disclosuresPresent" .flag <|
      field "proofVerified" .flag .nil)
    { make := fun (queryResultPresent, disclosuresPresent, proofVerified, ()) =>
        ⟨queryResultPresent, disclosuresPresent, proofVerified⟩
      view := fun c => (c.queryResultPresent, c.disclosuresPresent, c.proofVerified, ())
      make_view := fun _ => rfl
      view_make := fun _ => rfl }

end IdentityChecks

structure FundsChecks where
  proofVerified : Bool
  thresholdMet : Bool
  railMatched : Bool
  deriving DecidableEq

namespace FundsChecks

def all (c : FundsChecks) : Bool :=
  c.proofVerified && c.thresholdMet && c.railMatched

def shape : Shape FundsChecks :=
  .via
    (.record "FundsDetails" true <|
      field "proofVerified" .flag <|
      field "thresholdMet" .flag <|
      field "railMatched" .flag .nil)
    { make := fun (proofVerified, thresholdMet, railMatched, ()) =>
        ⟨proofVerified, thresholdMet, railMatched⟩
      view := fun c => (c.proofVerified, c.thresholdMet, c.railMatched, ())
      make_view := fun _ => rfl
      view_make := fun _ => rfl }

end FundsChecks

structure BindingChecks where
  bindingMatched : Bool
  nullifierMatched : Bool
  scopeMatched : Bool
  epochInWindow : Bool
  nullifierUnused : Bool
  deriving DecidableEq

namespace BindingChecks

def all (c : BindingChecks) : Bool :=
  c.bindingMatched && c.nullifierMatched && c.scopeMatched && c.epochInWindow &&
    c.nullifierUnused

def shape : Shape BindingChecks :=
  .via
    (.record "BindingDetails" true <|
      field "bindingMatched" .flag <|
      field "nullifierMatched" .flag <|
      field "scopeMatched" .flag <|
      field "epochInWindow" .flag <|
      field "nullifierUnused" .flag .nil)
    { make := fun (bindingMatched, nullifierMatched, scopeMatched, epochInWindow,
          nullifierUnused, ()) =>
        ⟨bindingMatched, nullifierMatched, scopeMatched, epochInWindow, nullifierUnused⟩
      view := fun c =>
        (c.bindingMatched, c.nullifierMatched, c.scopeMatched, c.epochInWindow,
          c.nullifierUnused, ())
      make_view := fun _ => rfl
      view_make := fun _ => rfl }

end BindingChecks

structure ExpiryCheck where
  validUntil : UInt64
  checkedAt : UInt64
  expired : Bool
  deriving DecidableEq

def ExpiryCheck.shape : Shape ExpiryCheck :=
  .via
    (.record "ExpirationDetails" true <|
      field "validUntil" .long <|
      field "checkedAt" .long <|
      field "expired" .flag .nil)
    { make := fun (validUntil, checkedAt, expired, ()) => ⟨validUntil, checkedAt, expired⟩
      view := fun c => (c.validUntil, c.checkedAt, c.expired, ())
      make_view := fun _ => rfl
      view_make := fun _ => rfl }

structure Checks where
  identity : IdentityChecks
  funds : FundsChecks
  binding : BindingChecks
  expiry : ExpiryCheck
  deriving DecidableEq

def Checks.shape : Shape Checks :=
  .via
    (.record "VerificationDetails" true <|
      field "identity" IdentityChecks.shape <|
      field "funds" FundsChecks.shape <|
      field "binding" BindingChecks.shape <|
      field "expiration" ExpiryCheck.shape .nil)
    { make := fun (identity, funds, binding, expiry, ()) => ⟨identity, funds, binding, expiry⟩
      view := fun c => (c.identity, c.funds, c.binding, c.expiry, ())
      make_view := fun _ => rfl
      view_make := fun _ => rfl }

structure Verdict where
  valid : Bool
  identityVerified : Bool
  fundsVerified : Bool
  bindingVerified : Bool
  expired : Bool
  checks : Checks
  /-- What the verifiers of the proofs reported instead of an answer. -/
  error : Option String
  deriving DecidableEq

namespace Verdict

def ofChecks (checks : Checks) (error : Option String) : Verdict where
  valid := checks.identity.all && checks.funds.all && checks.binding.all && !checks.expiry.expired
  identityVerified := checks.identity.all
  fundsVerified := checks.funds.all
  bindingVerified := checks.binding.all
  expired := checks.expiry.expired
  checks := checks
  error := error

def blank : Verdict where
  valid := false
  identityVerified := false
  fundsVerified := false
  bindingVerified := false
  expired := false
  checks :=
    { identity := ⟨false, false, false⟩
      funds := ⟨false, false, false⟩
      binding := ⟨false, false, false, false, false⟩
      expiry := ⟨0, 0, false⟩ }
  error := none

def shape : Shape Verdict :=
  .via
    (.record "BondVerificationResult" true <|
      field "valid" .flag <|
      field "identityVerified" .flag <|
      field "fundsVerified" .flag <|
      field "bindingVerified" .flag <|
      field "expired" .flag <|
      field "details" Checks.shape <|
      optional "error" .text .nil)
    { make := fun (valid, identityVerified, fundsVerified, bindingVerified, expired, checks,
          error, ()) =>
        ⟨valid, identityVerified, fundsVerified, bindingVerified, expired, checks, error⟩
      view := fun v =>
        (v.valid, v.identityVerified, v.fundsVerified, v.bindingVerified, v.expired, v.checks,
          v.error, ())
      make_view := fun _ => rfl
      view_make := fun _ => rfl }

end Verdict

end HolderBond
