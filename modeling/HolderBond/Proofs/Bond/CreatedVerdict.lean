import HolderBond.Proofs.Bond.Creation
import HolderBond.Verification.Basic

/-!
# The verdict on a bond that was just made

What making a bond computes is computed once more when the bond is verified.  For bonds that
were made and not touched since, both agree: the binding always matches, the funds are judged by
the warnings, the identity by what it discloses, and the rest is an interval of time.
-/

set_option autoImplicit false

namespace HolderBond

/-! ## Single checks -/

theorem Verifier.inWindow_iff (settings : VerificationSettings) (epoch now : UInt64) :
    Verifier.inWindow settings epoch now = true ↔
      epoch.toNat ≤ now.toNat ∧ now.toNat ≤ epoch.toNat + settings.maxEpochAge.toNat := by
  simp only [Verifier.inWindow, Bool.and_eq_true, decide_eq_true_eq, UInt64.le_iff_toNat_le]
  omega

theorem Bond.isExpiredAt_iff (bond : Bond) (now : UInt64) :
    bond.isExpiredAt now = true ↔ bond.metadata.validUntil.toNat < now.toNat := by
  simp [Bond.isExpiredAt, UInt64.lt_iff_toNat_lt]

theorem HolderBinding.agrees_derive (input : BindingInput) (params : BindingParams) :
    (HolderBinding.derive input params).agrees input params = (true, true) := by
  simp [HolderBinding.agrees]

theorem IdentityBundle.hasQueryResult_of_disclosed {bundle : IdentityBundle}
    (disclosed : (Disclosures.ofQuery bundle.queryResult).isEmpty = false) :
    bundle.hasQueryResult = true := by
  unfold IdentityBundle.hasQueryResult
  unfold Disclosures.ofQuery at disclosed
  split
  · next absent =>
      rw [absent] at disclosed
      cases disclosed
  · next members found =>
      rw [found] at disclosed
      cases members with
      | nil => cases disclosed
      | cons member members => rfl
  · rfl

namespace BondRequest

variable {request : BondRequest} {params : BindingParams} {time : Instant} {suffix : UInt32}

/-! ## Warnings -/

theorem lowThreshold_mem_warnings (proven required : UInt64) :
    .lowThreshold proven required ∈ request.warnings ↔
      request.thresholdMet = false ∧ proven = request.funds.publicInputs.threshold ∧
        required = request.policy.funds.threshold := by
  unfold warnings
  cases request.thresholdMet <;> simp

theorem otherRail_mem_warnings (actual required : String) :
    .otherRail actual required ∈ request.warnings ↔
      request.requiredRail ≠ request.funds.effectiveRail ∧
        actual = request.funds.effectiveRail ∧ required = request.requiredRail := by
  unfold warnings
  by_cases same : request.requiredRail = request.funds.effectiveRail <;> simp [same]

theorem thresholdMet_iff_no_warning :
    request.thresholdMet = true ↔
      ∀ proven required, .lowThreshold proven required ∉ request.warnings := by
  constructor
  · intro met proven required member
    rw [((lowThreshold_mem_warnings proven required).1 member).1] at met
    cases met
  · intro silent
    cases met : request.thresholdMet with
    | true => rfl
    | false =>
        have warned := (lowThreshold_mem_warnings _ _).2 ⟨met, rfl, rfl⟩
        exact absurd warned (silent _ _)

theorem railMatched_iff_no_warning :
    request.requiredRail = request.funds.effectiveRail ↔
      ∀ actual required, .otherRail actual required ∉ request.warnings := by
  constructor
  · intro same actual required member
    exact ((otherRail_mem_warnings actual required).1 member).1 same
  · intro silent
    by_cases same : request.requiredRail = request.funds.effectiveRail
    · exact same
    · have warned := (otherRail_mem_warnings _ _).2 ⟨same, rfl, rfl⟩
      exact absurd warned (silent _ _)

theorem thresholdMet_iff :
    request.thresholdMet = true ↔
      request.policy.funds.threshold ≤ request.funds.publicInputs.threshold := by
  simp [thresholdMet]

theorem requiredRail_eq_iff :
    request.requiredRail = request.funds.effectiveRail ↔
      ∀ rail, request.policy.funds.railId = some rail → rail = request.funds.effectiveRail := by
  unfold requiredRail
  cases request.policy.funds.railId <;> simp

/-! ## Groups of checks -/

variable (request params time suffix) (settings : VerificationSettings) (now : UInt64)

abbrev verdict (request : BondRequest) (params : BindingParams) (time : Instant) (suffix : UInt32)
    (settings : VerificationSettings) (now : UInt64) : Verdict :=
  (Verifier.structural params settings).verifyAt (request.bond params time suffix) now

theorem binding_checks :
    (request.verdict params time suffix settings now).checks.binding =
      { bindingMatched := true, nullifierMatched := true, scopeMatched := true
        epochInWindow := Verifier.inWindow settings time.epoch now, nullifierUnused := true } := by
  have input : Verifier.bindingInput (request.bond params time suffix) =
      request.bindingInput time.epoch := rfl
  have agrees := HolderBinding.agrees_derive (request.bindingInput time.epoch) params
  have scope : ((HolderBinding.derive (request.bindingInput time.epoch) params).scopeId ==
      request.policy.funds.scopeId) = true := by
    simp [HolderBinding.derive, bindingInput]
  simp only [verdict, Verifier.verifyAt, Verdict.ofChecks, Verifier.checkBinding, input]
  simp only [bond, Verifier.structural, agrees, fundsPart, policySnapshot, scope]
  rfl

theorem no_reports : (request.verdict params time suffix settings now).error = none := rfl

theorem fundsVerified_eq (data : request.funds.proof ≠ []) :
    (request.verdict params time suffix settings now).fundsVerified = true ↔
      request.thresholdMet = true ∧ request.requiredRail = request.funds.effectiveRail := by
  have present : (FundsVerifier.structural request.funds).verified = true := by
    simpa [FundsVerifier.structural, Outcome.verified] using data
  have flag : (request.verdict params time suffix settings now).fundsVerified =
      ((FundsVerifier.structural request.funds).verified && request.thresholdMet &&
        (request.funds.effectiveRail == request.requiredRail)) := rfl
  rw [flag, present]
  simp only [Bool.true_and, Bool.and_eq_true, beq_iff_eq]
  exact and_congr_right fun _ => eq_comm

theorem identityVerified_eq (proofs : request.identity.proofs ≠ []) :
    (request.verdict params time suffix settings now).identityVerified = true ↔
      (Disclosures.ofQuery request.identity.queryResult).isEmpty = false := by
  have present : (IdentityVerifier.structural request.identity).verified = true := by
    simpa [IdentityVerifier.structural, Outcome.verified] using proofs
  have flag : (request.verdict params time suffix settings now).identityVerified =
      (request.identity.hasQueryResult &&
        !(Disclosures.ofQuery request.identity.queryResult).isEmpty &&
        (IdentityVerifier.structural request.identity).verified) := rfl
  rw [flag, present]
  simp only [Bool.and_true, Bool.and_eq_true, Bool.not_eq_true']
  exact ⟨fun both => both.2, fun disclosed =>
    ⟨IdentityBundle.hasQueryResult_of_disclosed disclosed, disclosed⟩⟩

/-- Outside the verifiers and the data of the bundles, validity is a matter of time. -/
theorem valid_iff :
    (request.verdict params time suffix settings now).valid = true ↔
      (request.verdict params time suffix settings now).identityVerified = true ∧
        (request.verdict params time suffix settings now).fundsVerified = true ∧
        time.epoch.toNat ≤ now.toNat ∧
        now.toNat ≤ min (request.validUntil time.epoch).toNat
          (time.epoch.toNat + settings.maxEpochAge.toNat) := by
  have flag : (request.verdict params time suffix settings now).valid =
      ((request.verdict params time suffix settings now).identityVerified &&
        (request.verdict params time suffix settings now).fundsVerified &&
        (request.verdict params time suffix settings now).checks.binding.all &&
        !(request.bond params time suffix).isExpiredAt now) := rfl
  have expired := Bond.isExpiredAt_iff (request.bond params time suffix) now
  have window := Verifier.inWindow_iff settings time.epoch now
  have until_eq : (request.bond params time suffix).metadata.validUntil =
      request.validUntil time.epoch := rfl
  rw [until_eq] at expired
  rw [flag, binding_checks request params time suffix settings now]
  simp only [BindingChecks.all, Bool.true_and, Bool.and_true, Bool.and_eq_true,
    Bool.not_eq_true', ← Bool.not_eq_true, expired, window]
  constructor
  · rintro ⟨⟨⟨identity, funds⟩, since, fresh⟩, live⟩
    exact ⟨identity, funds, since, by omega⟩
  · rintro ⟨identity, funds, since, before⟩
    exact ⟨⟨⟨identity, funds⟩, since, by omega⟩, by omega⟩

end BondRequest

/-! ## The whole verdict -/

/-- Making a bond fails for three reasons only, the first in order being reported; the verdict
on a bond that was made says that the binding holds, that the funds suffice if no warning says
otherwise, and that the identity is established if it discloses anything, and the bond is valid
from its epoch on until it expires or its epoch is too old. -/
theorem created_verdict (request : BondRequest) (params : BindingParams) (time : Instant)
    (suffix : UInt32) :
    (∀ creation, request.create params time suffix = .ok creation →
      ∀ (settings : VerificationSettings) (now : UInt64),
        let verdict := (Verifier.structural params settings).verifyAt creation.bond now
        (verdict.checks.binding.bindingMatched = true ∧
          verdict.checks.binding.nullifierMatched = true ∧
          verdict.checks.binding.scopeMatched = true ∧ verdict.error = none) ∧
        (verdict.fundsVerified = true ↔
          (∀ proven required, .lowThreshold proven required ∉ creation.warnings) ∧
            ∀ actual required, .otherRail actual required ∉ creation.warnings) ∧
        (verdict.fundsVerified = true ↔
          request.policy.funds.threshold ≤ request.funds.publicInputs.threshold ∧
            ∀ rail, request.policy.funds.railId = some rail →
              rail = request.funds.effectiveRail) ∧
        (verdict.identityVerified = true ↔
          (Disclosures.ofQuery request.identity.queryResult).isEmpty = false) ∧
        (verdict.valid = true ↔
          verdict.identityVerified = true ∧ verdict.fundsVerified = true ∧
            creation.bond.binding.epoch.toNat ≤ now.toNat ∧
            now.toNat ≤ min creation.bond.metadata.validUntil.toNat
              (creation.bond.binding.epoch.toNat + settings.maxEpochAge.toNat))) ∧
    (∀ fault, request.create params time suffix = .error fault ↔
      (request.identity.proofs = [] ∧ fault = .missingIdentityProofs) ∨
        (request.identity.proofs ≠ [] ∧ request.funds.proof = [] ∧ fault = .missingFundsProof) ∨
        (request.identity.proofs ≠ [] ∧ request.funds.proof ≠ [] ∧ params.separator = "" ∧
          fault = .value BindingParams.emptySeparator)) := by
  constructor
  · intro creation made settings now
    obtain ⟨proofs, data, -⟩ := BondRequest.complete_of_create made
    rw [BondRequest.bond_of_create made]
    have binding := request.binding_checks params time suffix settings now
    have funds := request.fundsVerified_eq params time suffix settings now data
    refine ⟨?_, ?_, ?_, request.identityVerified_eq params time suffix settings now proofs,
      request.valid_iff params time suffix settings now⟩
    · simp only [binding]
      exact ⟨trivial, trivial, trivial, request.no_reports params time suffix settings now⟩
    · rw [funds, BondRequest.thresholdMet_iff_no_warning, BondRequest.railMatched_iff_no_warning]
    · rw [funds, BondRequest.thresholdMet_iff, BondRequest.requiredRail_eq_iff]
  · intro fault
    rw [BondRequest.create_eq_error_iff, BondRequest.fault?_eq_some_iff]

theorem created_verdict_sample :
    ∃ creation, BondRequest.sample.create .v1 .start 0 = .ok creation ∧
      ((Verifier.structural .v1 .standard).verifyAt creation.bond 0).valid = true := by
  have made : BondRequest.sample.create .v1 .start 0 =
      .ok ⟨BondRequest.sample.bond .v1 .start 0, BondRequest.sample.warnings⟩ := rfl
  obtain ⟨-, -, funds, identity, valid⟩ :=
    (created_verdict BondRequest.sample .v1 .start 0).1 _ made .standard 0
  refine ⟨_, made, valid.2 ⟨identity.2 ?_, funds.2 ⟨?_, ?_⟩, ?_, ?_⟩⟩
  · decide +kernel
  · decide
  · intro rail named
    cases named
  · decide
  · decide

end HolderBond
