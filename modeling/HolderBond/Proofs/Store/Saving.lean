import HolderBond.Proofs.Bond.CreatedTransport
import HolderBond.Proofs.Shape.Deeper
import HolderBond.Proofs.Store.Refinement

/-!
# What a save leaves to be read

A cache keeps its bonds one level deeper than their own documents are, and its reader stops at
the depth at which every reader stops.  A bond of as many levels as a document may have can be
decoded, then, but not cached: saving it is acknowledged all the same, and nothing in the cache
can be read afterwards.  Any other settled bond is found again, in front of the bonds that were
there.
-/

set_option autoImplicit false

namespace HolderBond

variable {σ : Type}

namespace Bond

/-- The bonds that stay when another is put in front of them: those of other names, as many as
there is room for. -/
def remaining (most : Nat) (bond : Bond) (bonds : List Bond) : List Bond :=
  (bonds.filter fun other => other.id != bond.id).take (most - 1)

theorem putFirst_eq {most : Nat} (positive : most ≠ 0) (bond : Bond) (bonds : List Bond) :
    putFirst most bond bonds = bond :: remaining most bond bonds := by
  obtain ⟨n, rfl⟩ := Nat.exists_eq_succ_of_ne_zero positive
  rfl

theorem mem_of_mem_remaining {most : Nat} {bond other : Bond} {bonds : List Bond}
    (member : other ∈ remaining most bond bonds) : other ∈ bonds ∧ other.id ≠ bond.id := by
  simpa using List.mem_filter.1 (List.mem_of_mem_take member)

theorem portable_of_faithful {bond : Bond} {most : Nat} (faithful : Bond.shape.Faithful bond)
    (small : Bond.shape.levels bond ≤ most) : bond.Portable most :=
  (portable_iff most bond).2 ⟨faithful, small⟩

theorem faithful_of_decode {encoded : String} {bond : Bond}
    (decoded : decode encoded = .ok bond) : Bond.shape.Faithful bond :=
  ((portable_iff _ _).1 (portable_of_decode decoded)).1

end Bond

namespace Cache

/-- A list with a bond that is too deep for it cannot be read. -/
theorem kept_render_deep {bonds : List Bond} (faithful : ∀ bond ∈ bonds, Bond.shape.Faithful bond)
    (settled : ∀ bond ∈ bonds, bond.Settled) {deep : Bond} (member : deep ∈ bonds)
    (tooDeep : 126 < Bond.shape.levels deep) :
    kept (some (Bond.listShape.render bonds)) = [] := by
  have refused : ∀ others, Bond.listShape.read (Bond.listShape.render bonds) ≠ .ok others := by
    intro others read
    obtain ⟨rfl, small⟩ := (Shape.read_render_iff Bond.listShape_sound Bond.floor_listShape faithful
      ((Bond.settled_list_iff bonds).2 settled)).1 read
    have portable := (Bond.within_list_iff others).1 ⟨faithful, small⟩ deep member
    exact absurd portable.levels (Nat.not_le_of_gt tooDeep)
  cases read : Bond.listShape.read (Bond.listShape.render bonds) with
  | error cause => simp [kept, read]
  | ok others => exact absurd read (refused others)

theorem kept_render_putFirst {most : Nat} (positive : most ≠ 0) {bond : Bond}
    (faithful : Bond.shape.Faithful bond) (settled : bond.Settled) {bonds : List Bond}
    (others : ∀ other ∈ Bond.remaining most bond bonds, other.Cacheable) :
    kept (some (Bond.listShape.render (Bond.putFirst most bond bonds))) =
      if Bond.shape.levels bond ≤ 126 then bond :: Bond.remaining most bond bonds else [] := by
  rw [Bond.putFirst_eq positive]
  split
  · next small =>
      have cacheable : bond.Cacheable := ⟨Bond.portable_of_faithful faithful small, settled⟩
      exact kept_render (List.forall_mem_cons.2 ⟨cacheable, others⟩)
  · next tooDeep =>
      refine kept_render_deep (List.forall_mem_cons.2 ⟨faithful, fun other member => ?_⟩)
        (List.forall_mem_cons.2 ⟨settled, fun other member => (others other member).settled⟩)
        List.mem_cons_self (Nat.lt_of_not_le tooDeep)
      exact ((Bond.portable_iff _ _).1 (others other member).portable).1

theorem cacheable_of_kept {text : Option String} {most : Nat} {bond : Bond}
    (settled : ∀ other ∈ Bond.remaining most bond (kept text), other.Settled) :
    ∀ other ∈ Bond.remaining most bond (kept text), other.Cacheable := fun other member =>
  ⟨portable_of_kept text other (Bond.mem_of_mem_remaining member).1, settled other member⟩

section Reliable

variable {backend : Backend (StateM σ)} {view : σ → String → Option String}
  {settings : CacheSettings}

theorem toNat_maxEntries_ne_zero (positive : 1 ≤ settings.maxEntries) :
    settings.maxEntries.toNat ≠ 0 :=
  Nat.ne_of_gt (UInt64.le_iff_toNat_le.1 positive)

theorem get_run (reliable : backend.Reliable view) (id : String) (state : σ) :
    ((Cache.get ⟨backend, settings⟩ id).run state).1 =
      (kept (view state settings.key)).find? fun bond => bond.id == id := by
  obtain ⟨after, got, -⟩ := list_run settings reliable state
  rw [Cache.get]
  simp only [StateT.run_bind, got]
  rfl

end Reliable

/-- Saving a bond that could be decoded is always acknowledged.  Let the bond and those that remain
beside it be settled.  If the bond leaves room for the level of the list around it, it is found
again, in front of the others; if it does not, nothing at all is found. -/
theorem acknowledged_save (backend : Backend (StateM σ)) (view : σ → String → Option String)
    (reliable : backend.Reliable view) (settings : CacheSettings)
    (positive : 1 ≤ settings.maxEntries) (start : σ) (encoded : String) (bond : Bond)
    (decoded : Bond.decode encoded = .ok bond) :
    let cache : Cache (StateM σ) := ⟨backend, settings⟩
    let others := Bond.remaining settings.maxEntries.toNat bond (cache.list.run start).1
    ∃ after, (cache.save bond).run start = (true, after) ∧
      (bond.Settled → (∀ other ∈ others, other.Settled) →
        (Bond.shape.levels bond ≤ 126 → ((cache.get bond.id).run after).1 = some bond ∧
          (cache.list.run after).1 = bond :: others) ∧
        (126 < Bond.shape.levels bond → ((cache.get bond.id).run after).1 = none ∧
          (cache.list.run after).1 = [])) := by
  intro cache others
  have room := toNat_maxEntries_ne_zero positive
  obtain ⟨after, saved, written⟩ := save_writes settings reliable room bond start
  refine ⟨after, saved, fun settled others_settled => ?_⟩
  have before : others = Bond.remaining settings.maxEntries.toNat bond
      (kept (view start settings.key)) := by
    simp only [others, cache, list_eq_kept settings reliable start]
  rw [before] at others_settled ⊢
  have left := kept_render_putFirst room (Bond.faithful_of_decode decoded) settled
    (cacheable_of_kept others_settled)
  rw [← written] at left
  refine ⟨fun small => ?_, fun deep => ?_⟩
  · rw [get_run reliable, list_eq_kept settings reliable, left, if_pos small]
    simp
  · rw [get_run reliable, list_eq_kept settings reliable, left, if_neg (Nat.not_le_of_gt deep)]
    simp

/-! ## At the limit -/

def nestedSample (depth : Nat) : Bond :=
  { Bond.sample with
    id := "bond-2"
    identity :=
      { Bond.sample.identity with
        bundle :=
          { Bond.sample.identity.bundle with queryResult := .ofTree (Json.nested depth) } } }

theorem nestedSample_portable {depth most : Nat}
    (small : Bond.shape.levels (nestedSample depth) ≤ most) :
    (nestedSample depth).Portable most where
  funds := Bond.sample_portable.funds
  inputs := Bond.sample_portable.inputs
  subProofs := Bond.sample_portable.subProofs
  policy := Bond.sample_portable.policy
  levels := small

def sampleMemory : Memory :=
  Memory.empty.insert CacheSettings.standard.key (Bond.listShape.render [.sample])

theorem sample_cacheable : Bond.sample.Cacheable :=
  ⟨Bond.sample_portable, Bond.sample_settled⟩

theorem kept_sampleMemory :
    kept (sampleMemory.get? CacheSettings.standard.key) = [.sample] := by
  rw [sampleMemory, Memory.get?_insert_same]
  exact kept_render (List.forall_mem_singleton.2 sample_cacheable)

theorem list_sampleMemory :
    ((Cache.list ⟨Memory.backend, .standard⟩).run sampleMemory).1 = [.sample] := by
  rw [list_eq_kept .standard Memory.backend_reliable, kept_sampleMemory]

theorem remaining_sample (depth : Nat) :
    Bond.remaining CacheSettings.standard.maxEntries.toNat (nestedSample depth) [.sample] =
      [.sample] :=
  rfl

theorem acknowledged_save_sample :
    let cache : Cache (StateM Memory) := ⟨Memory.backend, .standard⟩
    let bond := nestedSample 123
    Bond.decode bond.encode = .ok bond ∧ bond.Settled ∧ Bond.sample.Settled ∧
      ∃ after, (cache.save bond).run sampleMemory = (true, after) ∧
        ((cache.get bond.id).run after).1 = some bond ∧
        (cache.list.run after).1 = [bond, .sample] := by
  intro cache bond
  have settled : bond.Settled := by decide +kernel
  have decodes : Bond.decode bond.encode = .ok bond :=
    Bond.decode_encode (nestedSample_portable (by decide +kernel)) settled
  obtain ⟨after, saved, readable⟩ := acknowledged_save Memory.backend Memory.get?
    Memory.backend_reliable .standard (by decide) sampleMemory _ _ decodes
  rw [list_sampleMemory, remaining_sample] at readable
  obtain ⟨found, listed⟩ :=
    (readable settled (List.forall_mem_singleton.2 Bond.sample_settled)).1 (by decide +kernel)
  exact ⟨decodes, settled, Bond.sample_settled, after, saved, found, listed⟩

/-- With one level more in the query result, the bond can still be decoded and the save is
acknowledged, but neither the bond nor what the cache held before is found. -/
theorem saved_but_unreadable :
    let cache : Cache (StateM Memory) := ⟨Memory.backend, .standard⟩
    let bond := nestedSample 124
    Bond.decode bond.encode = .ok bond ∧ (cache.list.run sampleMemory).1 = [.sample] ∧
      ∃ after, (cache.save bond).run sampleMemory = (true, after) ∧
        ((cache.get bond.id).run after).1 = none ∧ (cache.list.run after).1 = [] := by
  intro cache bond
  have settled : bond.Settled := by decide +kernel
  have decodes : Bond.decode bond.encode = .ok bond :=
    Bond.decode_encode (nestedSample_portable (by decide +kernel)) settled
  obtain ⟨after, saved, written⟩ :=
    save_writes .standard Memory.backend_reliable (by decide) bond sampleMemory
  have tooDeep : ¬ Bond.shape.levels bond ≤ 126 := by decide +kernel
  have others : ∀ other ∈ Bond.remaining CacheSettings.standard.maxEntries.toNat bond
      (kept (sampleMemory.get? CacheSettings.standard.key)), other.Cacheable := by
    rw [kept_sampleMemory, remaining_sample]
    exact List.forall_mem_singleton.2 sample_cacheable
  have nothing : kept (after.get? CacheSettings.standard.key) = [] := by
    rw [written, kept_render_putFirst (by decide) (Bond.faithful_of_decode decodes) settled others,
      if_neg tooDeep]
  refine ⟨decodes, list_sampleMemory, after, saved, ?_, ?_⟩
  · rw [get_run Memory.backend_reliable, nothing]
    rfl
  · rw [list_eq_kept .standard Memory.backend_reliable, nothing]

end Cache

end HolderBond
