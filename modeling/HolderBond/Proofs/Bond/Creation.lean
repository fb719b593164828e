import HolderBond.Bond.Creation

/-!
# When a bond is made

Making a bond has three ways to fail, found in a fixed order, and no other; where none of them
applies the bond of the request is made, with the warnings of the request.
-/

set_option autoImplicit false

namespace HolderBond.BondRequest

variable {request : BondRequest} {params : BindingParams} {now : Instant} {suffix : UInt32}

/-- What keeps a request from being met, the first in the order of the checks. -/
def fault? (request : BondRequest) (params : BindingParams) : Option BondError :=
  if request.identity.proofs = [] then some .missingIdentityProofs
  else if request.funds.proof = [] then some .missingFundsProof
  else if params.separator = "" then some (.value BindingParams.emptySeparator)
  else none

/-- Making a bond is decided by the faults alone. -/
theorem create_eq (request : BondRequest) (params : BindingParams) (now : Instant)
    (suffix : UInt32) :
    request.create params now suffix =
      match request.fault? params with
      | some fault => .error fault
      | none => .ok ⟨request.bond params now suffix, request.warnings⟩ := by
  by_cases noProofs : request.identity.proofs = []
  · simp [create, fault?, noProofs]
  · by_cases noData : request.funds.proof = []
    · simp [create, fault?, noProofs, noData]
    · by_cases noSeparator : params.separator = ""
      · simp [create, fault?, noProofs, noData, noSeparator, BindingParams.validate]
      · simp [create, fault?, noProofs, noData, noSeparator, BindingParams.validate]

theorem create_eq_error_iff (fault : BondError) :
    request.create params now suffix = .error fault ↔ request.fault? params = some fault := by
  rw [create_eq]
  cases request.fault? params <;> simp

theorem fault?_eq_some_iff (fault : BondError) :
    request.fault? params = some fault ↔
      (request.identity.proofs = [] ∧ fault = .missingIdentityProofs) ∨
        (request.identity.proofs ≠ [] ∧ request.funds.proof = [] ∧ fault = .missingFundsProof) ∨
        (request.identity.proofs ≠ [] ∧ request.funds.proof ≠ [] ∧ params.separator = "" ∧
          fault = .value BindingParams.emptySeparator) := by
  unfold fault?
  by_cases noProofs : request.identity.proofs = []
  · simp [noProofs, @eq_comm _ fault]
  · by_cases noData : request.funds.proof = []
    · simp [noProofs, noData, @eq_comm _ fault]
    · by_cases noSeparator : params.separator = "" <;> simp [noProofs, noData, noSeparator, @eq_comm _ fault]

theorem bond_of_create {creation : Creation}
    (made : request.create params now suffix = .ok creation) :
    creation = ⟨request.bond params now suffix, request.warnings⟩ := by
  rw [create_eq] at made
  split at made
  · cases made
  · exact (Except.ok.inj made).symm

theorem complete_of_create {creation : Creation}
    (made : request.create params now suffix = .ok creation) :
    request.identity.proofs ≠ [] ∧ request.funds.proof ≠ [] ∧ params.separator ≠ "" := by
  rw [create_eq] at made
  unfold fault? at made
  split at made
  · cases made
  · next absent =>
      split at absent
      · cases absent
      · next proofs =>
          split at absent
          · cases absent
          · next data =>
              split at absent
              · cases absent
              · next separator => exact ⟨proofs, data, separator⟩

def sample : BondRequest where
  policy :=
    { purpose := "onboarding", scope := "s1", validity := 86400, identityQuery := .null
      funds :=
        { policyId := 7, threshold := 1000, currency := "ZEC", currencyCode := 5915971
          railId := none, scopeId := 42 }
      domain := none }
  identity :=
    { proofId := "proof-1", uniqueIdentifier := some "  "
      proofs := [⟨"compare_age", "0.2", "abcd", ["0x01"], "0xvk", 0, 1, .empty⟩]
      queryResult := .ofTree (.object [("gender", .string "F"), ("age", .null)])
      requestId := "req-1", policy := none }
  funds :=
    { railId := "RAIL:ORCHARD:", circuitVersion := 3, proof := [0xAA]
      publicInputs := ⟨1000, 5915971, none, 0, 42, 7, [1, 2, 3], none, none, none, .empty⟩
      extra := .empty }
  seed := ⟨.zero⟩
  note := some "first bond"
  devMode := none

end HolderBond.BondRequest
