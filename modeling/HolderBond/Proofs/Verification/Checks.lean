import HolderBond.Proofs.Bond.CreatedVerdict

/-!
# What the checks of a verdict ask

A bond is valid if and only if it passes every single check.  Each check is put here as a fact
about the bond, its time and the answers of the verifiers.
-/

set_option autoImplicit false

namespace HolderBond

namespace Verifier

/-- Binding and nullifier of a bond are the digests of the messages that are hashed again. -/
structure Matched (params : BindingParams) (bond : Bond) : Prop where
  binding : bond.binding.binding = params.hash.digest ((bindingInput bond).preimage params)
  nullifier : bond.binding.nullifier = params.hash.digest
    (HolderBinding.nullifierPreimage bond.binding.binding bond.binding.scopeId)

theorem matched_iff (verifier : Verifier) (bond : Bond) (now : UInt64) :
    ((verifier.verifyAt bond now).checks.binding.bindingMatched = true ∧
      (verifier.verifyAt bond now).checks.binding.nullifierMatched = true) ↔
      Matched verifier.params bond := by
  have flags : ((verifier.verifyAt bond now).checks.binding.bindingMatched = true ∧
      (verifier.verifyAt bond now).checks.binding.nullifierMatched = true) ↔
      (HolderBinding.derive (bindingInput bond) verifier.params).binding = bond.binding.binding ∧
        (HolderBinding.derive (bindingInput bond) verifier.params).nullifier =
          bond.binding.nullifier := by
    simp [verifyAt, Verdict.ofChecks, checkBinding, HolderBinding.agrees]
  rw [flags]
  constructor
  · rintro ⟨bindings, nullifiers⟩
    refine ⟨bindings.symm, nullifiers.symm.trans ?_⟩
    rw [← bindings]
    rfl
  · rintro ⟨bindings, nullifiers⟩
    refine ⟨bindings.symm, ?_⟩
    rw [nullifiers, bindings]
    rfl

theorem matched_iff_eq_derive (params : BindingParams) (bond : Bond) :
    Matched params bond ↔ bond.binding = HolderBinding.derive (bindingInput bond) params := by
  constructor
  · rintro ⟨bindings, nullifiers⟩
    rw [bindings] at nullifiers
    calc bond.binding = ⟨bond.binding.binding, bond.binding.nullifier, bond.binding.scopeId,
          bond.binding.epoch⟩ := rfl
      _ = HolderBinding.derive (bindingInput bond) params := by rw [nullifiers, bindings]; rfl
  · intro derived
    have bindings : bond.binding.binding =
        params.hash.digest ((bindingInput bond).preimage params) :=
      congrArg HolderBinding.binding derived
    refine ⟨bindings, ?_⟩
    rw [bindings]
    exact congrArg HolderBinding.nullifier derived

/-- A bond, its time and the answers of the verifiers are as every check asks. -/
structure Passes (verifier : Verifier) (bond : Bond) (now : UInt64) : Prop where
  queryResult : bond.identity.bundle.hasQueryResult = true
  disclosed : bond.identity.disclosures.isEmpty = false
  identityProof : (verifier.identity bond.identity.bundle).verified = true
  fundsProof : (verifier.funds bond.funds.bundle).verified = true
  thresholdMet : bond.funds.thresholdMet = true
  rail : bond.funds.bundle.effectiveRail = bond.funds.policy.railId
  matched : Matched verifier.params bond
  scope : bond.binding.scopeId = bond.funds.policy.scopeId
  begun : bond.binding.epoch.toNat ≤ now.toNat
  recent : now.toNat ≤ bond.binding.epoch.toNat + verifier.settings.maxEpochAge.toNat
  live : now.toNat ≤ bond.metadata.validUntil.toNat

theorem valid_iff_passes (verifier : Verifier) (bond : Bond) (now : UInt64) :
    (verifier.verifyAt bond now).valid = true ↔ verifier.Passes bond now := by
  have flag : (verifier.verifyAt bond now).valid =
      ((checkIdentity bond (verifier.identity bond.identity.bundle)).all &&
        (checkFunds bond (verifier.funds bond.funds.bundle)).all &&
        (verifier.checkBinding bond now).all && !bond.isExpiredAt now) := rfl
  have binding : (verifier.checkBinding bond now).all = true ↔
      Matched verifier.params bond ∧ bond.binding.scopeId = bond.funds.policy.scopeId ∧
        inWindow verifier.settings bond.binding.epoch now = true := by
    rw [← matched_iff verifier bond now]
    simp [verifyAt, Verdict.ofChecks, checkBinding, BindingChecks.all, and_assoc]
  have expired := Bond.isExpiredAt_iff bond now
  rw [flag]
  simp only [Bool.and_eq_true, binding, inWindow_iff, Bool.not_eq_true', ← Bool.not_eq_true,
    expired, Nat.not_lt, checkIdentity, IdentityChecks.all, checkFunds, FundsChecks.all,
    beq_iff_eq]
  constructor
  · rintro ⟨⟨⟨⟨⟨queryResult, disclosed⟩, identityProof⟩, ⟨fundsProof, thresholdMet⟩, rail⟩,
      matched, scope, begun, recent⟩, live⟩
    exact
      { queryResult, identityProof, fundsProof, thresholdMet, rail, matched, scope, begun, recent
        disclosed := by simpa using disclosed
        live }
  · intro passes
    exact ⟨⟨⟨⟨⟨passes.queryResult, by simp [passes.disclosed]⟩, passes.identityProof⟩,
      ⟨passes.fundsProof, passes.thresholdMet⟩, passes.rail⟩,
      passes.matched, passes.scope, passes.begun, passes.recent⟩, passes.live⟩

end Verifier

theorem BondRequest.sample_passes :
    (Verifier.structural .v1 .standard).Passes (BondRequest.sample.bond .v1 .start 0) 0 where
  queryResult := rfl
  disclosed := by decide +kernel
  identityProof := rfl
  fundsProof := rfl
  thresholdMet := by decide
  rail := by decide +kernel
  matched := (Verifier.matched_iff_eq_derive _ _).2 rfl
  scope := rfl
  begun := Nat.le_refl _
  recent := Nat.zero_le _
  live := Nat.zero_le _

end HolderBond
