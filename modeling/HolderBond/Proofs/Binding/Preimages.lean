import HolderBond.Binding.Basic
import HolderBond.Binding.Seed
import HolderBond.Proofs.Text.Utf8

/-!
# What preimages tell apart

Preimages are their parts one after another, with no lengths between them.  The parts can be
told apart all the same: numbers, digests and salts have fixed widths and stand at the end,
and what stands before the last colon of a funds preimage is the rail, since digits hold no
colon.
-/

set_option autoImplicit false

namespace HolderBond

/-! ## Parts of fixed width -/

namespace Words

@[simp] theorem length_longToBigEndian (w : UInt64) : (longToBigEndian w).length = 8 := rfl

theorem toNat_shifted_byte (w : UInt64) (k : Nat) (small : k < 64) :
    (w >>> UInt64.ofNat k).toUInt8.toNat = (w.toNat >>> k) % 256 := by
  have amount : (UInt64.ofNat k).toNat % 64 = k := by
    simp only [UInt64.toNat_ofNat']
    omega
  simp only [UInt64.toNat_toUInt8, UInt64.toNat_shiftRight, amount]

theorem longToBigEndian_injective {v w : UInt64} (same : longToBigEndian v = longToBigEndian w) :
    v = w := by
  simp only [longToBigEndian, List.cons.injEq, and_true] at same
  obtain ⟨b7, b6, b5, b4, b3, b2, b1, b0⟩ := same
  have byteSame : ∀ k, k < 64 → (v >>> UInt64.ofNat k).toUInt8 = (w >>> UInt64.ofNat k).toUInt8 →
      (v.toNat >>> k) % 256 = (w.toNat >>> k) % 256 := by
    intro k small equal
    rw [← toNat_shifted_byte v k small, ← toNat_shifted_byte w k small, equal]
  have d7 := byteSame 56 (by decide) b7
  have d6 := byteSame 48 (by decide) b6
  have d5 := byteSame 40 (by decide) b5
  have d4 := byteSame 32 (by decide) b4
  have d3 := byteSame 24 (by decide) b3
  have d2 := byteSame 16 (by decide) b2
  have d1 := byteSame 8 (by decide) b1
  have d0 : v.toNat % 256 = w.toNat % 256 := by
    rw [← UInt64.toNat_toUInt8, ← UInt64.toNat_toUInt8, b0]
  have boundV := v.toNat_lt
  have boundW := w.toNat_lt
  apply UInt64.toNat_inj.1
  omega

end Words

/-! ## Commitments -/

namespace Commitment

theorem identityPreimage_eq (source : String) (salt : List UInt8) :
    identityPreimage source salt = identityTag ++ Text.utf8 source ++ salt := by
  simp [identityPreimage, identityParts]

theorem fundsPreimage_eq (key rail : String) (salt : List UInt8) :
    fundsPreimage key rail salt =
      fundsTag ++ (Text.utf8 rail ++ colon :: Text.utf8 key) ++ salt := by
  simp [fundsPreimage, fundsParts]

/-- Tag and salt being of fixed length, what is between them is the source. -/
theorem identityPreimage_inj {source source' : String} {salt salt' : List UInt8}
    (lengths : salt.length = salt'.length)
    (same : identityPreimage source salt = identityPreimage source' salt') :
    source = source' ∧ salt = salt' := by
  rw [identityPreimage_eq, identityPreimage_eq] at same
  obtain ⟨tagged, salts⟩ := List.append_inj' same lengths
  exact ⟨Text.utf8_injective (List.append_cancel_left tagged), salts⟩

/-- At the last colon a list splits in one way only. -/
theorem split_at_last_colon {rail rail' key key' : List UInt8} (plain : colon ∉ key)
    (plain' : colon ∉ key') (same : rail ++ colon :: key = rail' ++ colon :: key') :
    rail = rail' ∧ key = key' := by
  -- Were one rail longer than the other, the rest of it, colon and all, would lie in a key.
  rcases List.append_eq_append_iff.1 same with
    ⟨middle, railSame, keySame⟩ | ⟨middle, railSame, keySame⟩
  · cases middle with
    | nil =>
        simp only [List.append_nil, List.nil_append, List.cons.injEq, true_and] at railSame keySame
        exact ⟨railSame.symm, keySame⟩
    | cons b middle =>
        rw [List.cons_append, List.cons.injEq] at keySame
        exact absurd (by rw [keySame.2]; simp) plain
  · cases middle with
    | nil =>
        simp only [List.append_nil, List.nil_append, List.cons.injEq, true_and] at railSame keySame
        exact ⟨railSame, keySame.symm⟩
    | cons b middle =>
        rw [List.cons_append, List.cons.injEq] at keySame
        exact absurd (by rw [keySame.2]; simp) plain'

theorem fundsPreimage_inj {key key' rail rail' : String} {salt salt' : List UInt8}
    (plain : colon ∉ Text.utf8 key) (plain' : colon ∉ Text.utf8 key')
    (lengths : salt.length = salt'.length)
    (same : fundsPreimage key rail salt = fundsPreimage key' rail' salt') :
    key = key' ∧ rail = rail' ∧ salt = salt' := by
  rw [fundsPreimage_eq, fundsPreimage_eq] at same
  obtain ⟨front, salts⟩ := List.append_inj' same lengths
  obtain ⟨rails, keys⟩ := split_at_last_colon plain plain' (List.append_cancel_left front)
  exact ⟨Text.utf8_injective keys, Text.utf8_injective rails, salts⟩

theorem colon_not_mem_proxy (nullifier : List UInt8) :
    colon ∉ Text.utf8 (nullifierProxy nullifier) := by
  have digits : ∀ n : Fin 16, Hex.digitByte n ≠ colon := by decide
  rw [nullifierProxy, Hex.utf8_encode]
  intro member
  obtain ⟨b, -, inside⟩ := List.mem_flatMap.1 member
  have high := digits ⟨b.toNat / 16, by have := b.toNat_lt; omega⟩
  have low := digits ⟨b.toNat % 16, by omega⟩
  rcases List.mem_cons.1 inside with here | there
  · exact high here.symm
  · exact low (List.mem_singleton.1 there).symm

theorem nullifierProxy_injective {nullifier nullifier' : List UInt8}
    (same : nullifierProxy nullifier = nullifierProxy nullifier') : nullifier = nullifier' := by
  have read := Hex.decode_encode nullifier
  rw [← nullifierProxy, same, nullifierProxy, Hex.decode_encode] at read
  exact (Except.ok.inj read).symm

end Commitment

namespace HolderSeed

@[simp] theorem length_identitySalt (seed : HolderSeed) : seed.identitySalt.length = 16 := by
  simp [identitySalt]

@[simp] theorem length_fundsSalt (seed : HolderSeed) : seed.fundsSalt.length = 16 := by
  simp [fundsSalt]

theorem eq_of_salts {seed seed' : HolderSeed} (identity : seed.identitySalt = seed'.identitySalt)
    (funds : seed.fundsSalt = seed'.fundsSalt) : seed = seed' := by
  have lists : seed.bytes.toList = seed'.bytes.toList := by
    calc seed.bytes.toList = seed.identitySalt ++ seed.fundsSalt :=
          (List.take_append_drop 16 _).symm
      _ = seed'.identitySalt ++ seed'.fundsSalt := by rw [identity, funds]
      _ = seed'.bytes.toList := List.take_append_drop 16 _
  cases seed
  cases seed'
  exact congrArg HolderSeed.mk (Bytes32.toList_injective lists)

end HolderSeed

/-! ## Bindings -/

namespace BindingInput

theorem preimage_eq (input : BindingInput) (params : BindingParams) :
    input.preimage params =
      Text.utf8 params.separator ++ (input.identity.toList ++ (input.funds.toList ++
        (Words.longToBigEndian input.scopeId ++
          ((if params.epochBound then Words.longToBigEndian input.epoch else []) ++
            input.customData.getD [])))) := by
  simp [preimage, parts]

theorem preimage_inj {params : BindingParams} {input input' : BindingInput}
    (plain : input.customData = none) (plain' : input'.customData = none)
    (same : input.preimage params = input'.preimage params) :
    input.identity = input'.identity ∧ input.funds = input'.funds ∧
      input.scopeId = input'.scopeId ∧ (params.epochBound = true → input.epoch = input'.epoch) := by
  simp only [preimage_eq, plain, plain', Option.getD_none, List.append_nil,
    List.append_cancel_left_eq] at same
  obtain ⟨identity, same⟩ := List.append_inj same (by simp)
  obtain ⟨funds, same⟩ := List.append_inj same (by simp)
  obtain ⟨scope, same⟩ := List.append_inj same (by simp)
  refine ⟨Bytes32.toList_injective identity, Bytes32.toList_injective funds,
    Words.longToBigEndian_injective scope, ?_⟩
  intro bound
  rw [if_pos bound, if_pos bound] at same
  exact Words.longToBigEndian_injective same

/-- Two commitments and a scope make up seventy-two bytes, whatever stands around them. -/
theorem length_preimage_ge (input : BindingInput) (params : BindingParams) :
    72 ≤ (input.preimage params).length := by
  simp only [preimage_eq, List.length_append, Bytes32.length_toList, Words.length_longToBigEndian]
  omega

end BindingInput

namespace HolderBinding

theorem derive_eq (input : BindingInput) (params : BindingParams) :
    derive input params =
      { binding := params.hash.digest (input.preimage params)
        nullifier := params.hash.digest
          (nullifierPreimage (params.hash.digest (input.preimage params)) input.scopeId)
        scopeId := input.scopeId
        epoch := input.epoch } :=
  rfl

theorem nullifierPreimage_eq (binding : Bytes32) (scopeId : UInt64) :
    nullifierPreimage binding scopeId =
      binding.toList ++ nullifierTag ++ Words.longToBigEndian scopeId := by
  simp [nullifierPreimage, nullifierParts]

theorem length_nullifierPreimage (binding : Bytes32) (scopeId : UInt64) :
    (nullifierPreimage binding scopeId).length = 51 := by
  have tag : nullifierTag.length = 11 := by decide
  simp [nullifierPreimage_eq, tag]

theorem nullifierPreimage_inj {binding binding' : Bytes32} {scopeId scopeId' : UInt64}
    (same : nullifierPreimage binding scopeId = nullifierPreimage binding' scopeId') :
    binding = binding' ∧ scopeId = scopeId' := by
  rw [nullifierPreimage_eq, nullifierPreimage_eq] at same
  obtain ⟨front, scopes⟩ := List.append_inj' same (by simp)
  obtain ⟨bindings, -⟩ := List.append_inj' front rfl
  exact ⟨Bytes32.toList_injective bindings, Words.longToBigEndian_injective scopes⟩

/-- The two kinds of preimages are kept apart by their lengths. -/
theorem preimage_ne_nullifierPreimage (input : BindingInput) (params : BindingParams)
    (binding : Bytes32) (scopeId : UInt64) :
    input.preimage params ≠ nullifierPreimage binding scopeId := by
  intro same
  have long := input.length_preimage_ge params
  rw [same, length_nullifierPreimage] at long
  omega

end HolderBinding

end HolderBond
