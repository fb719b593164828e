import HolderBond.Proofs.Binding.Preimages
import HolderBond.Proofs.Bond.Creation

/-!
# Bonds that share a binding

Each making of a bond hashes four messages.  If two makings arrive at one binding, either they
were about the same holder, funds, policy scope and, where it is bound, epoch, or two different
messages among those hashed have one digest.  No digest is assumed to be free of collisions:
the pair is exhibited.
-/

set_option autoImplicit false

namespace HolderBond

abbrev Hashed := HashAlgorithm × List UInt8

/-- Two different ones of some messages have one digest. -/
def Collision (messages : List Hashed) : Prop :=
  ∃ algorithm x y, (algorithm, x) ∈ messages ∧ (algorithm, y) ∈ messages ∧ x ≠ y ∧
    algorithm.digest x = algorithm.digest y

/-- Messages of one digest are one message, or they collide. -/
theorem eq_or_collision {messages : List Hashed} {algorithm : HashAlgorithm} {x y : List UInt8}
    (first : (algorithm, x) ∈ messages) (second : (algorithm, y) ∈ messages)
    (same : algorithm.digest x = algorithm.digest y) : x = y ∨ Collision messages := by
  by_cases equal : x = y
  · exact Or.inl equal
  · exact Or.inr ⟨algorithm, x, y, first, second, equal, same⟩

namespace BondRequest

variable (request : BondRequest) (params : BindingParams) (now : Instant)

/-- The messages that are hashed for a bond: those of the two commitments, of the binding and
of the nullifier. -/
def hashed : List Hashed :=
  let input := request.bindingInput now.epoch
  [ (.blake3, Commitment.identityPreimage request.identity.source request.seed.identitySalt),
    (.blake3, Commitment.fundsPreimage
      (Commitment.nullifierProxy request.funds.publicInputs.nullifier)
      request.funds.effectiveRail request.seed.fundsSalt),
    (params.hash, input.preimage params),
    (params.hash, HolderBinding.nullifierPreimage (HolderBinding.derive input params).binding
      input.scopeId) ]

theorem identity_hashed :
    ((.blake3, Commitment.identityPreimage request.identity.source request.seed.identitySalt) :
      Hashed) ∈ request.hashed params now := by
  simp [hashed]

theorem funds_hashed :
    ((.blake3, Commitment.fundsPreimage
      (Commitment.nullifierProxy request.funds.publicInputs.nullifier)
      request.funds.effectiveRail request.seed.fundsSalt) : Hashed) ∈
      request.hashed params now := by
  simp [hashed]

theorem binding_hashed :
    ((params.hash, (request.bindingInput now.epoch).preimage params) : Hashed) ∈
      request.hashed params now := by
  simp [hashed]

end BondRequest

/-- Two requests at their times are about the same holder and the same funds, for one scope
and, where it is bound, one epoch. -/
structure SameHolder (params : BindingParams) (first : BondRequest) (firstTime : Instant)
    (second : BondRequest) (secondTime : Instant) : Prop where
  source : first.identity.source = second.identity.source
  seed : first.seed = second.seed
  rail : first.funds.effectiveRail = second.funds.effectiveRail
  nullifier : first.funds.publicInputs.nullifier = second.funds.publicInputs.nullifier
  scope : first.policy.funds.scopeId = second.policy.funds.scopeId
  epoch : params.epochBound = true → firstTime.epoch = secondTime.epoch

section Pair

variable {params : BindingParams} {first second : BondRequest} {firstTime secondTime : Instant}

theorem identity_eq_or_collision (params : BindingParams) (firstTime secondTime : Instant)
    (same : first.identityCommitment = second.identityCommitment) :
    (first.identity.source = second.identity.source ∧
      first.seed.identitySalt = second.seed.identitySalt) ∨
      Collision (first.hashed params firstTime ++ second.hashed params secondTime) := by
  have left := List.mem_append_left (second.hashed params secondTime)
    (first.identity_hashed params firstTime)
  have right := List.mem_append_right (first.hashed params firstTime)
    (second.identity_hashed params secondTime)
  rcases eq_or_collision left right same with equal | collision
  · exact Or.inl (Commitment.identityPreimage_inj (by simp) equal)
  · exact Or.inr collision

theorem funds_eq_or_collision (params : BindingParams) (firstTime secondTime : Instant)
    (same : first.fundsCommitment = second.fundsCommitment) :
    (first.funds.publicInputs.nullifier = second.funds.publicInputs.nullifier ∧
      first.funds.effectiveRail = second.funds.effectiveRail ∧
      first.seed.fundsSalt = second.seed.fundsSalt) ∨
      Collision (first.hashed params firstTime ++ second.hashed params secondTime) := by
  have left := List.mem_append_left (second.hashed params secondTime)
    (first.funds_hashed params firstTime)
  have right := List.mem_append_right (first.hashed params firstTime)
    (second.funds_hashed params secondTime)
  rcases eq_or_collision left right same with equal | collision
  · obtain ⟨keys, rails, salts⟩ :=
      Commitment.fundsPreimage_inj (Commitment.colon_not_mem_proxy _)
        (Commitment.colon_not_mem_proxy _) (by simp) equal
    exact Or.inl ⟨Commitment.nullifierProxy_injective keys, rails, salts⟩
  · exact Or.inr collision

/-- The two levels of hashing taken apart, the outer one first. -/
theorem sameHolder_or_collision
    (same : (HolderBinding.derive (first.bindingInput firstTime.epoch) params).binding =
      (HolderBinding.derive (second.bindingInput secondTime.epoch) params).binding) :
    SameHolder params first firstTime second secondTime ∨
      Collision (first.hashed params firstTime ++ second.hashed params secondTime) := by
  have left := List.mem_append_left (second.hashed params secondTime)
    (first.binding_hashed params firstTime)
  have right := List.mem_append_right (first.hashed params firstTime)
    (second.binding_hashed params secondTime)
  rcases eq_or_collision left right same with equal | collision
  · obtain ⟨identities, funds, scope, epoch⟩ := BindingInput.preimage_inj rfl rfl equal
    rcases identity_eq_or_collision params firstTime secondTime identities with
      ⟨source, identitySalt⟩ | collision
    · rcases funds_eq_or_collision params firstTime secondTime funds with
        ⟨nullifier, rail, fundsSalt⟩ | collision
      · exact Or.inl
          { source, rail, nullifier, scope, epoch
            seed := HolderSeed.eq_of_salts identitySalt fundsSalt }
      · exact Or.inr collision
    · exact Or.inr collision
  · exact Or.inr collision

theorem derive_eq_of_sameHolder (same : SameHolder params first firstTime second secondTime) :
    (HolderBinding.derive (first.bindingInput firstTime.epoch) params).binding =
        (HolderBinding.derive (second.bindingInput secondTime.epoch) params).binding ∧
      (HolderBinding.derive (first.bindingInput firstTime.epoch) params).nullifier =
        (HolderBinding.derive (second.bindingInput secondTime.epoch) params).nullifier := by
  have identities : first.identityCommitment = second.identityCommitment := by
    rw [BondRequest.identityCommitment, same.source, same.seed]
    rfl
  have funds : first.fundsCommitment = second.fundsCommitment := by
    rw [BondRequest.fundsCommitment, same.nullifier, same.rail, same.seed]
    rfl
  have preimages : (first.bindingInput firstTime.epoch).preimage params =
      (second.bindingInput secondTime.epoch).preimage params := by
    simp only [BindingInput.preimage_eq, BondRequest.bindingInput, identities, funds, same.scope]
    by_cases bound : params.epochBound
    · rw [same.epoch bound]
    · simp [bound]
  have bindings : (HolderBinding.derive (first.bindingInput firstTime.epoch) params).binding =
      (HolderBinding.derive (second.bindingInput secondTime.epoch) params).binding :=
    congrArg params.hash.digest preimages
  refine ⟨bindings, congrArg params.hash.digest ?_⟩
  have scopes : (first.bindingInput firstTime.epoch).scopeId =
      (second.bindingInput secondTime.epoch).scopeId := same.scope
  rw [HolderBinding.derive, HolderBinding.derive] at bindings
  simp only at bindings
  rw [bindings, scopes]

/-- Two bonds made under one set of parameters share a binding only if they are about the same
holder, up to a collision among the messages hashed; and if they are, they share the binding and
the nullifier. -/
theorem shared_binding {firstSuffix secondSuffix : UInt32} {firstMade secondMade : Creation}
    (firstOk : first.create params firstTime firstSuffix = .ok firstMade)
    (secondOk : second.create params secondTime secondSuffix = .ok secondMade) :
    (firstMade.bond.binding.binding = secondMade.bond.binding.binding →
      SameHolder params first firstTime second secondTime ∨
        Collision (first.hashed params firstTime ++ second.hashed params secondTime)) ∧
    (SameHolder params first firstTime second secondTime →
      firstMade.bond.binding.binding = secondMade.bond.binding.binding ∧
        firstMade.bond.binding.nullifier = secondMade.bond.binding.nullifier) := by
  rw [BondRequest.bond_of_create firstOk, BondRequest.bond_of_create secondOk]
  exact ⟨sameHolder_or_collision, derive_eq_of_sameHolder⟩

theorem shared_binding_sample :
    ∃ firstMade secondMade : Creation,
      BondRequest.sample.create .v1 .start 0 = .ok firstMade ∧
      ({ BondRequest.sample with note := none } : BondRequest).create .v1 .start 1 =
        .ok secondMade ∧
      firstMade.bond.binding.binding = secondMade.bond.binding.binding ∧
      firstMade.bond.binding.nullifier = secondMade.bond.binding.nullifier := by
  have firstOk : BondRequest.sample.create .v1 .start 0 =
      .ok ⟨BondRequest.sample.bond .v1 .start 0, BondRequest.sample.warnings⟩ := rfl
  have secondOk : ({ BondRequest.sample with note := none } : BondRequest).create .v1 .start 1 =
      .ok ⟨({ BondRequest.sample with note := none } : BondRequest).bond .v1 .start 1,
        ({ BondRequest.sample with note := none } : BondRequest).warnings⟩ := rfl
  exact ⟨_, _, firstOk, secondOk,
    (shared_binding firstOk secondOk).2 ⟨rfl, rfl, rfl, rfl, rfl, fun _ => rfl⟩⟩

end Pair

end HolderBond
