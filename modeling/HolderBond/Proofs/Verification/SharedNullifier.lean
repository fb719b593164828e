import HolderBond.Proofs.Bond.SameHolder
import HolderBond.Proofs.Verification.Checks

/-!
# Bonds that share a nullifier

A nullifier is meant to be seen once.  Here bonds of any origin are compared by what a verifier
hashes anew for them: two bonds whose binding and nullifier both match share either of the two
only if they are about the same commitments, scope and, where it is bound, epoch, or else two of
the messages hashed collide.
-/

set_option autoImplicit false

namespace HolderBond

namespace Verifier

def rehashed (params : BindingParams) (bond : Bond) : List Hashed :=
  [ (params.hash, (bindingInput bond).preimage params),
    (params.hash, HolderBinding.nullifierPreimage
      (HolderBinding.derive (bindingInput bond) params).binding bond.binding.scopeId) ]

theorem binding_mem_rehashed (params : BindingParams) (bond : Bond) :
    (params.hash, (bindingInput bond).preimage params) ∈ rehashed params bond :=
  List.mem_cons_self

theorem Matched.nullifier_mem_rehashed {params : BindingParams} {bond : Bond}
    (matched : Matched params bond) :
    (params.hash, HolderBinding.nullifierPreimage bond.binding.binding bond.binding.scopeId) ∈
      rehashed params bond := by
  rw [matched.binding]
  exact List.mem_cons_of_mem _ List.mem_cons_self

end Verifier

/-- Two bonds tie the same commitments together for the same scope and, where it is bound, the
same epoch, and show the same two values for it. -/
structure SameTie (params : BindingParams) (first second : Bond) : Prop where
  identity : first.identity.commitment = second.identity.commitment
  funds : first.funds.commitment = second.funds.commitment
  scope : first.binding.scopeId = second.binding.scopeId
  binding : first.binding.binding = second.binding.binding
  nullifier : first.binding.nullifier = second.binding.nullifier
  epoch : params.epochBound = true → first.binding.epoch = second.binding.epoch

section Pair

open Verifier

variable {params : BindingParams} {first second : Bond}

/-- The inner level of hashing: what stands under one binding. -/
theorem sameTie_of_binding (firstMatched : Matched params first)
    (secondMatched : Matched params second)
    (same : first.binding.binding = second.binding.binding) :
    SameTie params first second ∨ Collision (rehashed params first ++ rehashed params second) := by
  have digests : params.hash.digest ((bindingInput first).preimage params) =
      params.hash.digest ((bindingInput second).preimage params) := by
    rw [← firstMatched.binding, ← secondMatched.binding, same]
  have left := List.mem_append_left (rehashed params second) (binding_mem_rehashed params first)
  have right := List.mem_append_right (rehashed params first) (binding_mem_rehashed params second)
  rcases eq_or_collision left right digests with equal | collision
  · obtain ⟨identity, funds, scope, epoch⟩ := BindingInput.preimage_inj rfl rfl equal
    have scopes : first.binding.scopeId = second.binding.scopeId := scope
    have nullifier : first.binding.nullifier = second.binding.nullifier := by
      rw [firstMatched.nullifier, secondMatched.nullifier, same, scopes]
    exact Or.inl { identity, funds, scope, binding := same, nullifier, epoch }
  · exact Or.inr collision

/-- The outer level of hashing: what stands under one nullifier. -/
theorem binding_of_nullifier (firstMatched : Matched params first)
    (secondMatched : Matched params second)
    (same : first.binding.nullifier = second.binding.nullifier) :
    first.binding.binding = second.binding.binding ∨
      Collision (rehashed params first ++ rehashed params second) := by
  have digests : params.hash.digest (HolderBinding.nullifierPreimage first.binding.binding
        first.binding.scopeId) =
      params.hash.digest (HolderBinding.nullifierPreimage second.binding.binding
        second.binding.scopeId) := by
    rw [← firstMatched.nullifier, ← secondMatched.nullifier, same]
  have left := List.mem_append_left (rehashed params second) firstMatched.nullifier_mem_rehashed
  have right := List.mem_append_right (rehashed params first) secondMatched.nullifier_mem_rehashed
  rcases eq_or_collision left right digests with equal | collision
  · exact Or.inl (HolderBinding.nullifierPreimage_inj equal).1
  · exact Or.inr collision

end Pair

/-- Of two bonds whose bindings and nullifiers match under one set of parameters, one binding or
one nullifier is that of the other only if both bonds tie the same things together, up to a
collision among the messages hashed again; and what is hashed for a binding is never what is
hashed for a nullifier. -/
theorem shared_nullifier :
    (∀ (firstVerifier secondVerifier : Verifier) (first second : Bond)
      (firstNow secondNow : UInt64),
      let params := firstVerifier.params
      let firstChecks := (firstVerifier.verifyAt first firstNow).checks.binding
      let secondChecks := (secondVerifier.verifyAt second secondNow).checks.binding
      secondVerifier.params = params →
      firstChecks.bindingMatched = true ∧ firstChecks.nullifierMatched = true →
      secondChecks.bindingMatched = true ∧ secondChecks.nullifierMatched = true →
      first.binding.nullifier = second.binding.nullifier ∨
        first.binding.binding = second.binding.binding →
      SameTie params first second ∨
        Collision (Verifier.rehashed params first ++ Verifier.rehashed params second)) ∧
    ∀ (input : BindingInput) (params : BindingParams) (binding : Bytes32) (scopeId : UInt64),
      input.preimage params ≠ HolderBinding.nullifierPreimage binding scopeId := by
  refine ⟨?_, HolderBinding.preimage_ne_nullifierPreimage⟩
  intro firstVerifier secondVerifier first second firstNow secondNow params firstChecks
    secondChecks sameParams firstFlags secondFlags shared
  have firstMatched : Verifier.Matched params first :=
    (Verifier.matched_iff firstVerifier first firstNow).1 firstFlags
  have secondMatched : Verifier.Matched params second := by
    rw [← sameParams]
    exact (Verifier.matched_iff secondVerifier second secondNow).1 secondFlags
  rcases shared with nullifiers | bindings
  · rcases binding_of_nullifier firstMatched secondMatched nullifiers with bindings | collision
    · exact sameTie_of_binding firstMatched secondMatched bindings
    · exact Or.inr collision
  · exact sameTie_of_binding firstMatched secondMatched bindings

def Instant.nextDay : Instant :=
  { Instant.start with seconds := 86400, inRange := by decide }

theorem shared_nullifier_sample :
    let params := BindingParams.v1.withoutEpoch
    let first := BondRequest.sample.bond params .start 0
    let second := BondRequest.sample.bond params .nextDay 1
    let verifier := Verifier.structural params .standard
    (verifier.verifyAt first 0).checks.binding.bindingMatched = true ∧
      (verifier.verifyAt first 0).checks.binding.nullifierMatched = true ∧
      (verifier.verifyAt second 86400).checks.binding.bindingMatched = true ∧
      (verifier.verifyAt second 86400).checks.binding.nullifierMatched = true ∧
      first.binding.epoch ≠ second.binding.epoch ∧
      first.binding.nullifier = second.binding.nullifier ∧
      (SameTie params first second ∨
        Collision (Verifier.rehashed params first ++ Verifier.rehashed params second)) := by
  intro params first second verifier
  have firstChecks := BondRequest.binding_checks .sample params .start 0 .standard 0
  have secondChecks := BondRequest.binding_checks .sample params .nextDay 1 .standard 86400
  have firstFlags : (verifier.verifyAt first 0).checks.binding.bindingMatched = true ∧
      (verifier.verifyAt first 0).checks.binding.nullifierMatched = true := by
    rw [firstChecks]
    exact ⟨rfl, rfl⟩
  have secondFlags : (verifier.verifyAt second 86400).checks.binding.bindingMatched = true ∧
      (verifier.verifyAt second 86400).checks.binding.nullifierMatched = true := by
    rw [secondChecks]
    exact ⟨rfl, rfl⟩
  have nullifiers : first.binding.nullifier = second.binding.nullifier := rfl
  exact ⟨firstFlags.1, firstFlags.2, secondFlags.1, secondFlags.2, by decide, nullifiers,
    shared_nullifier.1 verifier verifier first second 0 86400 rfl firstFlags secondFlags
      (Or.inl nullifiers)⟩

end HolderBond
