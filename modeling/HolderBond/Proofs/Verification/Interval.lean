import HolderBond.Proofs.Verification.Checks

/-!
# The verdict over time

Only two checks look at the time: the window of the epoch and the expiry.  Both are comparisons
of integers without bound, even where the window begins before 1970 or the sum of epoch and age
exceeds 64 bits.  So a bond is valid on one interval of seconds or never, and a bond that has
become invalid stays so.
-/

set_option autoImplicit false

namespace HolderBond

namespace Verifier

/-- Whether a bond passes every check that does not look at the time. -/
def standing (verifier : Verifier) (bond : Bond) : Bool :=
  (checkIdentity bond (verifier.identity bond.identity.bundle)).all &&
    (checkFunds bond (verifier.funds bond.funds.bundle)).all &&
    bond.binding == HolderBinding.derive (bindingInput bond) verifier.params &&
    bond.binding.scopeId == bond.funds.policy.scopeId

variable {verifier : Verifier} {bond : Bond} {now : UInt64}

theorem Passes.standing (passes : verifier.Passes bond now) : verifier.standing bond = true := by
  have derived := (matched_iff_eq_derive verifier.params bond).1 passes.matched
  have identity : (checkIdentity bond (verifier.identity bond.identity.bundle)).all = true := by
    simp [checkIdentity, IdentityChecks.all, passes.queryResult, passes.disclosed,
      passes.identityProof]
  have funds : (checkFunds bond (verifier.funds bond.funds.bundle)).all = true := by
    simp [checkFunds, FundsChecks.all, passes.fundsProof, passes.thresholdMet, passes.rail]
  rw [Verifier.standing, identity, funds, ← derived, ← passes.scope]
  simp

theorem passes_of_standing (standing : verifier.standing bond = true)
    (begun : bond.binding.epoch.toNat ≤ now.toNat)
    (recent : now.toNat ≤ bond.binding.epoch.toNat + verifier.settings.maxEpochAge.toNat)
    (live : now.toNat ≤ bond.metadata.validUntil.toNat) : verifier.Passes bond now := by
  simp only [Verifier.standing, checkIdentity, IdentityChecks.all, checkFunds, FundsChecks.all,
    Bool.and_eq_true, beq_iff_eq, Bool.not_eq_true'] at standing
  obtain ⟨⟨⟨⟨⟨queryResult, disclosed⟩, identityProof⟩, ⟨fundsProof, thresholdMet⟩, rail⟩,
    derived⟩, scope⟩ := standing
  exact
    { queryResult, disclosed, identityProof, fundsProof, thresholdMet, rail, scope, begun, recent
      matched := (matched_iff_eq_derive verifier.params bond).2 derived
      live }

def lastSecond (verifier : Verifier) (bond : Bond) : Nat :=
  min bond.metadata.validUntil.toNat
    (bond.binding.epoch.toNat + verifier.settings.maxEpochAge.toNat)

theorem valid_iff_within (verifier : Verifier) (bond : Bond) (now : UInt64) :
    (verifier.verifyAt bond now).valid = true ↔
      verifier.standing bond = true ∧ bond.binding.epoch.toNat ≤ now.toNat ∧
        now.toNat ≤ verifier.lastSecond bond := by
  rw [valid_iff_passes, lastSecond, Nat.le_min]
  constructor
  · intro passes
    exact ⟨passes.standing, passes.begun, passes.live, passes.recent⟩
  · rintro ⟨standing, begun, live, recent⟩
    exact passes_of_standing standing begun recent live

end Verifier

/-- A bond is valid from its epoch on until it expires or its epoch is too old, provided that it
passes the other checks, which are the same at all times; so it is never valid again once it has
become invalid.  All sums are those of integers without bound. -/
theorem verdict_over_time (verifier : Verifier) (bond : Bond) :
    (∀ now : UInt64,
      let verdict := verifier.verifyAt bond now
      (verdict.checks.binding.epochInWindow = true ↔
        bond.binding.epoch.toNat ≤ now.toNat ∧
          now.toNat ≤ bond.binding.epoch.toNat + verifier.settings.maxEpochAge.toNat) ∧
      (verdict.expired = true ↔ bond.metadata.validUntil.toNat < now.toNat)) ∧
    (∃ standing : Bool, ∀ now : UInt64,
      (verifier.verifyAt bond now).valid = true ↔
        standing = true ∧ bond.binding.epoch.toNat ≤ now.toNat ∧
          now.toNat ≤ min bond.metadata.validUntil.toNat
            (bond.binding.epoch.toNat + verifier.settings.maxEpochAge.toNat)) ∧
    ∀ valid lapsed later : UInt64, valid ≤ lapsed → lapsed ≤ later →
      (verifier.verifyAt bond valid).valid = true →
      (verifier.verifyAt bond lapsed).valid = false →
      (verifier.verifyAt bond later).valid = false := by
  refine ⟨fun now => ⟨?_, ?_⟩, ⟨verifier.standing bond, verifier.valid_iff_within bond⟩, ?_⟩
  · exact Verifier.inWindow_iff verifier.settings bond.binding.epoch now
  · exact Bond.isExpiredAt_iff bond now
  · intro valid lapsed later firstOrder secondOrder holds fails
    rw [UInt64.le_iff_toNat_le] at firstOrder secondOrder
    have within := (verifier.valid_iff_within bond valid).1 holds
    rw [← Bool.not_eq_true, verifier.valid_iff_within] at fails ⊢
    -- The epoch has come by then, so only the end of the interval can have passed.
    intro again
    apply fails
    refine ⟨within.1, ?_, ?_⟩
    · omega
    · omega

theorem verdict_over_time_sample :
    let verifier := Verifier.structural .v1 .standard
    let bond := BondRequest.sample.bond .v1 .start 0
    (verifier.verifyAt bond 0).valid = true ∧ (verifier.verifyAt bond 86401).valid = false ∧
      (verifier.verifyAt bond 1000000).valid = false := by
  intro verifier bond
  have valid : (verifier.verifyAt bond 0).valid = true :=
    (verifier.valid_iff_passes bond 0).2 BondRequest.sample_passes
  have lapsed : (verifier.verifyAt bond 86401).valid = false := by
    rw [← Bool.not_eq_true, verifier.valid_iff_passes]
    intro passes
    exact absurd passes.live (by decide)
  exact ⟨valid, lapsed,
    (verdict_over_time verifier bond).2.2 0 86401 1000000 (by decide) (by decide) valid lapsed⟩

end HolderBond
