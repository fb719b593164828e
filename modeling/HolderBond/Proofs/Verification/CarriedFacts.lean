import HolderBond.Proofs.Verification.Checks

/-!
# Facts that a bond carries

A bond repeats facts that follow from its own bundles and policy snapshot: whether the threshold
is met, what was disclosed, who the holder is.  Making a bond derives them; verifying it derives
only binding and nullifier again and reads the others as they stand.  So a valid bond of any
origin need not agree with itself, and one whose two sides are as they were made does.
-/

set_option autoImplicit false

namespace HolderBond

/-- Who is named, and what is said to be disclosed as long as something is, make no difference. -/
theorem Verifier.verifyAt_restated (verifier : Verifier) (bond : Bond) (now : UInt64)
    (identifier : Option String) {disclosures : Disclosures}
    (same : disclosures.isEmpty = bond.identity.disclosures.isEmpty) :
    verifier.verifyAt { bond with identity :=
      { bond.identity with uniqueIdentifier := identifier, disclosures := disclosures } } now =
      verifier.verifyAt bond now := by
  simp only [verifyAt, checkIdentity, same]
  rfl

/-- A bond of the sample request whose snapshot asks for more than was proven, and which claims
another holder and an age that no query answered. -/
def Bond.misstated : Bond :=
  let made := BondRequest.sample.bond .v1 .start 0
  { made with
    identity :=
      { made.identity with
        uniqueIdentifier := some "someone else"
        disclosures :=
          { Disclosures.none with ageThreshold := some 21, ageThresholdMet := some true } }
    funds := { made.funds with policy := { made.funds.policy with threshold := 5000 } } }

/-- It is valid all the same, and agrees with itself in nothing. -/
theorem valid_though_misstated :
    ((Verifier.structural .v1 .standard).verifyAt Bond.misstated 0).valid = true ∧
      ¬ Bond.misstated.funds.policy.threshold ≤
        Bond.misstated.funds.bundle.publicInputs.threshold ∧
      Bond.misstated.identity.disclosures ≠
        Disclosures.ofQuery Bond.misstated.identity.bundle.queryResult ∧
      Bond.misstated.identity.uniqueIdentifier ≠
        Bond.misstated.identity.bundle.resolvedIdentifier := by
  refine ⟨?_, by decide, by decide +kernel, by decide +kernel⟩
  rw [Verifier.valid_iff_passes]
  exact
    { BondRequest.sample_passes with
      disclosed := rfl
      matched := (Verifier.matched_iff_eq_derive _ _).2 rfl }

/-- What a valid bond vouches for.  Binding and nullifier are derived again from the commitments
in it, the rail is that of its bundle and the scope that of its binding; the threshold is said
to be met, and something is said to be disclosed, but what it is and who is named make no
difference.  Where a side is that of a bond that was made, what it carries follows from the
bundle and the snapshot in it. -/
theorem carried_facts (verifier : Verifier) (bond : Bond) (now : UInt64)
    (valid : (verifier.verifyAt bond now).valid = true) :
    (bond.binding = HolderBinding.derive (Verifier.bindingInput bond) verifier.params ∧
      bond.binding.scopeId = bond.funds.policy.scopeId ∧
      bond.funds.policy.railId = bond.funds.bundle.effectiveRail ∧
      bond.funds.thresholdMet = true ∧ bond.identity.bundle.hasQueryResult = true ∧
      bond.identity.disclosures.isEmpty = false) ∧
    (∀ (identifier : Option String) (disclosures : Disclosures), disclosures.isEmpty = false →
      verifier.verifyAt { bond with identity :=
        { bond.identity with uniqueIdentifier := identifier, disclosures := disclosures } } now =
        verifier.verifyAt bond now) ∧
    ∀ (request : BondRequest) (params : BindingParams) (time : Instant) (suffix : UInt32)
      (creation : Creation), request.create params time suffix = .ok creation →
      (bond.funds = creation.bond.funds →
        bond.funds.policy.threshold ≤ bond.funds.bundle.publicInputs.threshold) ∧
      (bond.identity = creation.bond.identity →
        bond.identity.disclosures = Disclosures.ofQuery bond.identity.bundle.queryResult ∧
          bond.identity.uniqueIdentifier = bond.identity.bundle.resolvedIdentifier) := by
  have passes := (verifier.valid_iff_passes bond now).1 valid
  have derived := (Verifier.matched_iff_eq_derive verifier.params bond).1 passes.matched
  refine ⟨⟨derived, passes.scope, passes.rail.symm, passes.thresholdMet, passes.queryResult,
    passes.disclosed⟩, ?_, ?_⟩
  · intro identifier disclosures some
    exact verifier.verifyAt_restated bond now identifier (some.trans passes.disclosed.symm)
  · intro request params time suffix creation made
    rw [BondRequest.bond_of_create made]
    constructor
    · intro funds
      have met : request.thresholdMet = true := by
        rw [← passes.thresholdMet, funds]
        rfl
      rw [funds]
      exact BondRequest.thresholdMet_iff.1 met
    · intro identity
      rw [identity]
      exact ⟨rfl, rfl⟩

theorem carried_facts_sample :
    let made := BondRequest.sample.bond .v1 .start 0
    let bond := { made with metadata := { made.metadata with note := some "seen" } }
    ((Verifier.structural .v1 .standard).verifyAt bond 0).valid = true ∧
      bond.funds.policy.threshold ≤ bond.funds.bundle.publicInputs.threshold ∧
      bond.identity.disclosures = Disclosures.ofQuery bond.identity.bundle.queryResult ∧
      bond.identity.uniqueIdentifier = bond.identity.bundle.resolvedIdentifier := by
  intro made bond
  have valid : ((Verifier.structural .v1 .standard).verifyAt bond 0).valid = true := by
    rw [Verifier.valid_iff_passes]
    exact
      { BondRequest.sample_passes with
        matched := (Verifier.matched_iff_eq_derive _ _).2 rfl }
  have created : BondRequest.sample.create .v1 .start 0 =
      .ok ⟨made, BondRequest.sample.warnings⟩ := rfl
  obtain ⟨funds, identity⟩ := (carried_facts _ bond 0 valid).2.2 _ _ _ _ _ created
  exact ⟨valid, funds rfl, identity rfl⟩

end HolderBond
