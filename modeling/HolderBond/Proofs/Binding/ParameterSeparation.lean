import HolderBond.Proofs.Bond.SameHolder

/-!
# Parameters that are told apart

A binding preimage has no lengths in it, and the epoch is part of it or not.  Still, bytes hashed
under one set of parameters are hashed under another one in a single case: one set binds the
epoch, the other does not, and the separator of the other is that of the first with eight more
bytes, which is what the missing epoch leaves to be made up for.
-/

set_option autoImplicit false

namespace HolderBond

/-! ## Parts of given bytes -/

theorem Words.exists_longToBigEndian {bytes : List UInt8} (length : bytes.length = 8) :
    ∃ w, longToBigEndian w = bytes := by
  obtain ⟨b7, b6, b5, b4, b3, b2, b1, b0, rfl⟩ :
      ∃ b7 b6 b5 b4 b3 b2 b1 b0, bytes = [b7, b6, b5, b4, b3, b2, b1, b0] := by
    match bytes, length with
    | [b7, b6, b5, b4, b3, b2, b1, b0], _ => exact ⟨b7, b6, b5, b4, b3, b2, b1, b0, rfl⟩
  let number := ((((((b7.toNat * 256 + b6.toNat) * 256 + b5.toNat) * 256 + b4.toNat) * 256 +
    b3.toNat) * 256 + b2.toNat) * 256 + b1.toNat) * 256 + b0.toNat
  have bound7 := b7.toNat_lt
  have bound6 := b6.toNat_lt
  have bound5 := b5.toNat_lt
  have bound4 := b4.toNat_lt
  have bound3 := b3.toNat_lt
  have bound2 := b2.toNat_lt
  have bound1 := b1.toNat_lt
  have bound0 := b0.toNat_lt
  have small : number < 2 ^ 64 := by omega
  have whole : (UInt64.ofNat number).toNat = number := UInt64.toNat_ofNat_of_lt' small
  have byteIs : ∀ k (b : UInt8), k < 64 → (number >>> k) % 256 = b.toNat →
      (UInt64.ofNat number >>> UInt64.ofNat k).toUInt8 = b := by
    intro k b inside same
    rw [← UInt8.toNat_inj, toNat_shifted_byte _ k inside, whole, same]
  refine ⟨UInt64.ofNat number, ?_⟩
  have last : (UInt64.ofNat number).toUInt8 = b0 := by
    rw [← UInt8.toNat_inj, UInt64.toNat_toUInt8, whole]
    omega
  rw [longToBigEndian, last]
  simp only [List.cons.injEq, and_true]
  refine ⟨byteIs 56 b7 (by decide) ?_, byteIs 48 b6 (by decide) ?_, byteIs 40 b5 (by decide) ?_,
    byteIs 32 b4 (by decide) ?_, byteIs 24 b3 (by decide) ?_, byteIs 16 b2 (by decide) ?_,
    byteIs 8 b1 (by decide) ?_⟩ <;> omega

theorem Bytes32.exists_toList {bytes : List UInt8} (length : bytes.length = 32) :
    ∃ value : Bytes32, value.toList = bytes :=
  ⟨⟨⟨bytes.toArray, by simpa using length⟩⟩, by simp [toList]⟩

/-! ## Preimages without custom data -/

namespace BindingInput

/-- What follows the separator. -/
def body (input : BindingInput) (epochBound : Bool) : List UInt8 :=
  input.identity.toList ++ input.funds.toList ++ Words.longToBigEndian input.scopeId ++
    if epochBound then Words.longToBigEndian input.epoch else []

theorem preimage_eq_body {input : BindingInput} (plain : input.customData = none)
    (params : BindingParams) :
    input.preimage params = Text.utf8 params.separator ++ input.body params.epochBound := by
  simp [preimage_eq, body, plain]

theorem length_body (input : BindingInput) (epochBound : Bool) :
    (input.body epochBound).length = if epochBound then 80 else 72 := by
  cases epochBound <;> simp [body]

theorem exists_body {epochBound : Bool} {bytes : List UInt8}
    (length : bytes.length = if epochBound then 80 else 72) :
    ∃ input : BindingInput, input.customData = none ∧ input.body epochBound = bytes := by
  have enough : 72 ≤ bytes.length := by rw [length]; split <;> omega
  have first : (bytes.take 32).length = 32 := by rw [List.length_take]; omega
  have second : ((bytes.drop 32).take 32).length = 32 := by
    rw [List.length_take, List.length_drop]
    omega
  have third : ((bytes.drop 64).take 8).length = 8 := by
    rw [List.length_take, List.length_drop]
    omega
  obtain ⟨identity, identityIs⟩ := Bytes32.exists_toList first
  obtain ⟨funds, fundsIs⟩ := Bytes32.exists_toList second
  obtain ⟨scope, scopeIs⟩ := Words.exists_longToBigEndian third
  have front : identity.toList ++ funds.toList ++ Words.longToBigEndian scope = bytes.take 72 := by
    have upTo64 := List.take_add (l := bytes) (i := 32) (j := 32)
    have upTo72 := List.take_add (l := bytes) (i := 64) (j := 8)
    rw [identityIs, fundsIs, scopeIs, ← upTo64, ← upTo72]
  cases epochBound with
  | false =>
      refine ⟨⟨identity, funds, scope, 0, none⟩, rfl, ?_⟩
      have all : bytes.length ≤ 72 := by rw [length]; simp
      simp [body, front, List.take_of_length_le all]
  | true =>
      have fourth : (bytes.drop 72).length = 8 := by rw [List.length_drop, length]; rfl
      obtain ⟨epoch, epochIs⟩ := Words.exists_longToBigEndian fourth
      refine ⟨⟨identity, funds, scope, epoch, none⟩, rfl, ?_⟩
      simp only [body, front, epochIs, if_true, List.take_append_drop]

end BindingInput

/-! ## Sets of parameters -/

namespace BindingParams

/-- The first set binds the epoch and the second does not, and the separator of the second goes
on for the eight bytes of an epoch. -/
def Shifted (bound unbound : BindingParams) : Prop :=
  bound.epochBound = true ∧ unbound.epochBound = false ∧
    ∃ extra : List UInt8, extra.length = 8 ∧
      Text.utf8 unbound.separator = Text.utf8 bound.separator ++ extra

variable {p q : BindingParams} {i j : BindingInput}

theorem eq_of_same_kind (plain : i.customData = none) (plain' : j.customData = none)
    (kind : p.epochBound = q.epochBound) (same : i.preimage p = j.preimage q) :
    p.separator = q.separator := by
  rw [BindingInput.preimage_eq_body plain, BindingInput.preimage_eq_body plain'] at same
  have lengths : (i.body p.epochBound).length = (j.body q.epochBound).length := by
    rw [BindingInput.length_body, BindingInput.length_body, kind]
  exact Text.utf8_injective (List.append_inj' same lengths).1

/-- A body that is shorter by an epoch starts that much further behind. -/
theorem shifted_of_preimage_eq (plain : i.customData = none) (plain' : j.customData = none)
    (bound : p.epochBound = true) (unbound : q.epochBound = false)
    (same : i.preimage p = j.preimage q) : Shifted p q := by
  rw [BindingInput.preimage_eq_body plain, BindingInput.preimage_eq_body plain', bound,
    unbound] at same
  have long : (i.body true).length = 80 := i.length_body true
  have short : (j.body false).length = 72 := j.length_body false
  have split : i.body true = (i.body true).take 8 ++ (i.body true).drop 8 :=
    (List.take_append_drop 8 _).symm
  rw [split, ← List.append_assoc] at same
  obtain ⟨separators, -⟩ := List.append_inj' same (by rw [List.length_drop]; omega)
  refine ⟨bound, unbound, (i.body true).take 8, ?_, separators.symm⟩
  rw [List.length_take]
  omega

/-- Under shifted parameters everything hashed under the unbound set is also hashed under the
bound one. -/
theorem preimage_eq_of_shifted (shifted : Shifted p q) (plain : j.customData = none) :
    ∃ i : BindingInput, i.customData = none ∧ i.preimage p = j.preimage q := by
  obtain ⟨bound, unbound, extra, length, separators⟩ := shifted
  have whole : (extra ++ j.body false).length = if true then 80 else 72 := by
    simp [BindingInput.length_body, length]
  obtain ⟨i, plain', body⟩ := BindingInput.exists_body whole
  refine ⟨i, plain', ?_⟩
  rw [BindingInput.preimage_eq_body plain', BindingInput.preimage_eq_body plain, bound, unbound,
    body, separators, List.append_assoc]

theorem shifted_of_shared (different : p.separator ≠ q.separator ∨ p.epochBound ≠ q.epochBound)
    (plain : i.customData = none) (plain' : j.customData = none)
    (same : i.preimage p = j.preimage q) : Shifted p q ∨ Shifted q p := by
  cases bound : p.epochBound <;> cases bound' : q.epochBound
  case false.true => exact Or.inr (shifted_of_preimage_eq plain' plain bound' bound same.symm)
  case true.false => exact Or.inl (shifted_of_preimage_eq plain plain' bound bound' same)
  -- Where both sets are of a kind, the separators are the same after all.
  all_goals
    have kind : p.epochBound = q.epochBound := by rw [bound, bound']
    rcases different with separators | kinds
    · exact absurd (eq_of_same_kind plain plain' kind same) separators
    · exact absurd kind kinds

theorem Shifted.both (shifted : Shifted p q) :
    p.separator ≠ q.separator ∧ p.epochBound ≠ q.epochBound := by
  obtain ⟨bound, unbound, extra, length, separators⟩ := shifted
  constructor
  · intro same
    have lengths := congrArg List.length separators
    rw [same, List.length_append, length] at lengths
    omega
  · rw [bound, unbound]
    decide

/-- Different sets of parameters hash some bytes in common if and only if they are shifted
against each other, and then whatever is hashed under the unbound one.  Under all other pairs,
those that differ in the separator only or in binding the epoch only among them, a binding
derived under one set agrees with an input under the other only by a collision. -/
theorem parameters_separated (p q : BindingParams) (hash : p.hash = q.hash)
    (different : p.separator ≠ q.separator ∨ p.epochBound ≠ q.epochBound) :
    ((∃ i j : BindingInput, i.customData = none ∧ j.customData = none ∧
        i.preimage p = j.preimage q) ↔ Shifted p q ∨ Shifted q p) ∧
      (Shifted p q → ∀ j : BindingInput, j.customData = none →
        ∃ i : BindingInput, i.customData = none ∧ i.preimage p = j.preimage q) ∧
      (Shifted p q ∨ Shifted q p → p.separator ≠ q.separator ∧ p.epochBound ≠ q.epochBound) ∧
      (∀ i j : BindingInput, i.customData = none → j.customData = none →
        ((HolderBinding.derive i p).agrees j q).1 = true →
          Shifted p q ∨ Shifted q p ∨
            Collision [(p.hash, i.preimage p), (p.hash, j.preimage q)]) := by
  refine ⟨⟨?_, ?_⟩, fun shifted j plain => preimage_eq_of_shifted shifted plain, ?_, ?_⟩
  · rintro ⟨i, j, plain, plain', same⟩
    exact shifted_of_shared different plain plain' same
  · have blank : (⟨.zero, .zero, 0, 0, none⟩ : BindingInput).customData = none := rfl
    rintro (shifted | shifted) <;>
      obtain ⟨i, plain, same⟩ := preimage_eq_of_shifted shifted blank
    · exact ⟨i, _, plain, blank, same⟩
    · exact ⟨_, i, blank, plain, same.symm⟩
  · rintro (shifted | shifted)
    · exact shifted.both
    · exact ⟨shifted.both.1.symm, shifted.both.2.symm⟩
  · intro i j plain plain' agrees
    have digests : p.hash.digest (i.preimage p) = p.hash.digest (j.preimage q) := by
      have equal : q.hash.digest (j.preimage q) = p.hash.digest (i.preimage p) :=
        beq_iff_eq.1 agrees
      rw [← equal, hash]
    rcases eq_or_collision (List.mem_cons_self ..)
        (List.mem_cons_of_mem _ (List.mem_cons_self ..)) digests with same | collision
    · rcases shifted_of_shared different plain plain' same with forth | back
      · exact Or.inl forth
      · exact Or.inr (Or.inl back)
    · exact Or.inr (Or.inr collision)

theorem parameters_separated_sample :
    let renamed : BindingParams :=
      { v1.withoutEpoch with separator := "zkpf-holder-binding-v1-noepoch" }
    (v1.hash = renamed.hash ∧ v1.epochBound ≠ renamed.epochBound ∧
      ∃ i j : BindingInput, i.customData = none ∧ j.customData = none ∧
        i.preimage v1 = j.preimage renamed) ∧
    (v1.hash = v1.withoutEpoch.hash ∧ v1.epochBound ≠ v1.withoutEpoch.epochBound ∧
      ¬ ∃ i j : BindingInput, i.customData = none ∧ j.customData = none ∧
        i.preimage v1 = j.preimage v1.withoutEpoch) := by
  intro renamed
  have unbound : v1.epochBound ≠ renamed.epochBound := by decide
  have unbound' : v1.epochBound ≠ v1.withoutEpoch.epochBound := by decide
  refine ⟨⟨rfl, unbound, ?_⟩, ⟨rfl, unbound', ?_⟩⟩
  · refine (parameters_separated v1 renamed rfl (Or.inr unbound)).1.2 (Or.inl ?_)
    exact ⟨rfl, rfl, Text.utf8 "-noepoch", by decide, by decide⟩
  · intro shared
    have separated := parameters_separated v1 v1.withoutEpoch rfl (Or.inr unbound')
    exact (separated.2.2.1 (separated.1.1 shared)).1 rfl

/-- A binding under version 1 that agrees with the same input under a set without the epoch and
with the separator longer by `-noepoch`. -/
theorem epoch_confused :
    let word : UInt64 := 0x2d6e6f65706f6368
    let digest : Bytes32 :=
      ⟨(Text.utf8 "-noepoch-noepoch-noepoch-noepoch").toArray, by decide⟩
    let input : BindingInput := ⟨digest, digest, word, word, none⟩
    let renamed : BindingParams :=
      { v1.withoutEpoch with separator := "zkpf-holder-binding-v1-noepoch" }
    v1.hash = renamed.hash ∧ v1.separator ≠ renamed.separator ∧
      v1.epochBound ≠ renamed.epochBound ∧
      input.preimage v1 = input.preimage renamed ∧
      (HolderBinding.derive input v1).agrees input renamed = (true, true) := by
  intro word digest input renamed
  have preimages : input.preimage v1 = input.preimage renamed := by decide +kernel
  have derived : HolderBinding.derive input v1 = HolderBinding.derive input renamed := by
    have hash : v1.hash = renamed.hash := rfl
    rw [HolderBinding.derive_eq, HolderBinding.derive_eq, preimages, hash]
  refine ⟨rfl, by decide, by decide, preimages, ?_⟩
  rw [HolderBinding.agrees, derived]
  simp

end BindingParams

end HolderBond
