import HolderBond.Proofs.Store.Saving

/-!
# Saves that are interrupted

The calls of a backend may fail, any of them and in any pattern, a call that fails changing
nothing.  A save reads the list and then writes it.  If the write fails, everything is as before;
but a list that could not be read counts as empty, so that a save whose read fails and whose
write does not drops every other bond of the cache.
-/

set_option autoImplicit false

namespace HolderBond

/-! ## One call each -/

namespace Cache

variable {m : Type → Type} [Monad m] [LawfulMonad m]

/-- Listing is one reading call; an answer that is a fault counts as no text. -/
theorem list_eq_map (cache : Cache m) :
    cache.list = (fun answer => kept answer.toOption.join) <$>
      cache.backend.get cache.settings.key := by
  rw [list, tryList, map_eq_pure_bind, bind_assoc]
  congr 1
  funext answer
  rcases answer with fault | text | text
  · simp [Except.toOption, kept]
  · simp [Except.toOption, kept]
  · cases read : Bond.listShape.read text <;> simp [Except.toOption, kept, read, Except.mapError]

theorem write_eq_map (cache : Cache m) (bonds : List Bond) :
    cache.write bonds = Except.isOk <$>
      cache.backend.set cache.settings.key (Bond.listShape.render bonds) := by
  rw [write, map_eq_pure_bind]
  congr 1
  funext answer
  cases answer <;> rfl

end Cache

variable {σ : Type} {backend : Backend (StateM σ)} {view : σ → String → Option String}
  {settings : CacheSettings} {faults : Nat → Option StoreError} {calls : Nat}

namespace Backend

def attempt {α : Type} (faults : Nat → Option StoreError)
    (call : StateM σ (Except StoreError α)) : StateM (σ × Nat) (Except StoreError α) :=
  fun (state, calls) =>
    match faults calls with
    | some fault => (.error fault, state, calls + 1)
    | none => ((call.run state).1, (call.run state).2, calls + 1)

def interrupted (backend : Backend (StateM σ)) (faults : Nat → Option StoreError) :
    Backend (StateM (σ × Nat)) where
  get key := attempt faults (backend.get key)
  set key text := attempt faults (backend.set key text)
  remove key := attempt faults (backend.remove key)

theorem run_attempt {α : Type} (call : StateM σ (Except StoreError α)) (state : σ) :
    (attempt faults call).run (state, calls) =
      match faults calls with
      | some fault => (.error fault, state, calls + 1)
      | none => ((call.run state).1, (call.run state).2, calls + 1) :=
  rfl

variable (faults calls) in
theorem Reliable.interrupted_get (reliable : backend.Reliable view) (key : String) (state : σ) :
    ∃ after, ((backend.interrupted faults).get key).run (state, calls) =
        ((faults calls).elim (.ok (view state key)) .error, after, calls + 1) ∧
      view after = view state := by
  obtain ⟨after, got, same⟩ := reliable.get key state
  rw [interrupted, run_attempt, got]
  cases faults calls with
  | none => exact ⟨after, rfl, same⟩
  | some fault => exact ⟨state, rfl, rfl⟩

variable (faults calls) in
theorem Reliable.interrupted_set (reliable : backend.Reliable view) (key text : String)
    (state : σ) :
    ∃ after, ((backend.interrupted faults).set key text).run (state, calls) =
        ((faults calls).elim (.ok ()) .error, after, calls + 1) ∧
      view after key = if (faults calls).isSome then view state key else some text := by
  obtain ⟨after, done, same⟩ := reliable.set key text state
  rw [interrupted, run_attempt, done]
  cases faults calls with
  | none =>
      refine ⟨after, rfl, ?_⟩
      rw [same, if_pos rfl]
      rfl
  | some fault => exact ⟨state, rfl, rfl⟩

end Backend

namespace Cache

variable (settings faults calls) in
theorem interrupted_list_run (reliable : backend.Reliable view) (state : σ) :
    ∃ after, (Cache.list ⟨backend.interrupted faults, settings⟩).run (state, calls) =
        (if (faults calls).isSome then [] else kept (view state settings.key),
          after, calls + 1) ∧
      view after = view state := by
  obtain ⟨after, got, same⟩ := reliable.interrupted_get faults calls settings.key state
  refine ⟨after, ?_, same⟩
  rw [list_eq_map, StateT.run_map, got]
  cases faults calls <;> rfl

variable (settings faults calls) in
theorem interrupted_write_run (reliable : backend.Reliable view) (bonds : List Bond) (state : σ) :
    ∃ after, (Cache.write ⟨backend.interrupted faults, settings⟩ bonds).run (state, calls) =
        ((faults calls).isNone, after, calls + 1) ∧
      view after settings.key =
        if (faults calls).isSome then view state settings.key
        else some (Bond.listShape.render bonds) := by
  obtain ⟨after, done, text⟩ :=
    reliable.interrupted_set faults calls settings.key (Bond.listShape.render bonds) state
  refine ⟨after, ?_, text⟩
  rw [write_eq_map, StateT.run_map, done]
  cases faults calls <;> rfl

variable (settings faults calls) in
/-- A save is a read and a write; a read that fails counts as an empty list. -/
theorem interrupted_save_run (reliable : backend.Reliable view)
    (positive : 1 ≤ settings.maxEntries) (bond : Bond) (state : σ) :
    ∃ after, (Cache.save ⟨backend.interrupted faults, settings⟩ bond).run (state, calls) =
        ((faults (calls + 1)).isNone, after, calls + 2) ∧
      view after settings.key =
        if (faults (calls + 1)).isSome then view state settings.key
        else some (Bond.listShape.render (Bond.putFirst settings.maxEntries.toNat bond
          (if (faults calls).isSome then [] else kept (view state settings.key)))) := by
  -- The read is the call of this number, the write the next one.
  obtain ⟨listed, got, same⟩ := interrupted_list_run settings faults calls reliable state
  obtain ⟨after, written, text⟩ := interrupted_write_run settings faults (calls + 1) reliable
    (Bond.putFirst settings.maxEntries.toNat bond
      (if (faults calls).isSome then [] else kept (view state settings.key))) listed
  refine ⟨after, ?_, ?_⟩
  · rw [save, if_neg (maxEntries_ne_zero (toNat_maxEntries_ne_zero positive))]
    simp only [StateT.run_bind, got]
    exact written
  · rw [text, same]

theorem interrupted_save_list (reliable : backend.Reliable view)
    (positive : 1 ≤ settings.maxEntries) {bond : Bond} (faithful : Bond.shape.Faithful bond)
    (settled : bond.Settled) {start after : σ}
    (others : ∀ other ∈ Bond.remaining settings.maxEntries.toNat bond
      (kept (view start settings.key)), other.Settled)
    (text : view after settings.key =
      if (faults (calls + 1)).isSome then view start settings.key
      else some (Bond.listShape.render (Bond.putFirst settings.maxEntries.toNat bond
        (if (faults calls).isSome then [] else kept (view start settings.key))))) :
    ((Cache.list ⟨backend, settings⟩).run after).1 =
      if (faults (calls + 1)).isSome then kept (view start settings.key)
      else if Bond.shape.levels bond ≤ 126 then
        bond :: (if (faults calls).isSome then []
          else Bond.remaining settings.maxEntries.toNat bond (kept (view start settings.key)))
      else [] := by
  have nothing : Bond.remaining settings.maxEntries.toNat bond [] = [] := by
    simp [Bond.remaining]
  have room := toNat_maxEntries_ne_zero positive
  rw [list_eq_kept settings reliable, text]
  -- The list that is written has what was read behind the bond, which may be nothing.
  by_cases refused : (faults (calls + 1)).isSome
  · rw [if_pos refused, if_pos refused]
  · rw [if_neg refused, if_neg refused]
    by_cases unread : (faults calls).isSome
    · have empty : ∀ other ∈ Bond.remaining settings.maxEntries.toNat bond [],
          other.Cacheable := by
        rw [nothing]
        exact List.forall_mem_nil _
      rw [if_pos unread, if_pos unread, kept_render_putFirst room faithful settled empty, nothing]
    · rw [if_neg unread, if_neg unread,
        kept_render_putFirst room faithful settled (cacheable_of_kept others)]

theorem forall_remaining_iff (most : Nat) (bond : Bond) (cached : List Bond)
    (readFault writeFault : Option StoreError) (small : Prop) [Decidable small] :
    (∀ other ∈ Bond.remaining most bond cached, other ∈
      (if writeFault.isSome then cached
      else if small then
        bond :: (if readFault.isSome then [] else Bond.remaining most bond cached)
      else [])) ↔
      writeFault.isSome ∨ (readFault.isNone ∧ small) ∨ Bond.remaining most bond cached = [] := by
  have inside : ∀ other ∈ Bond.remaining most bond cached, other ∈ cached :=
    fun other member => (Bond.mem_of_mem_remaining member).1
  have alone : (∀ other ∈ Bond.remaining most bond cached, other = bond) ↔
      Bond.remaining most bond cached = [] := by
    rw [List.eq_nil_iff_forall_not_mem]
    refine forall₂_congr fun other member => ⟨?_, False.elim⟩
    rintro rfl
    exact (Bond.mem_of_mem_remaining member).2 rfl
  cases writeFault with
  | some fault => simpa using inside
  | none =>
      by_cases fits : small
      · cases readFault with
        | none => simpa [fits] using fun other member => Or.inr member
        | some fault => simpa [fits] using alone
      · simp [fits, List.eq_nil_iff_forall_not_mem]

/-- A list of one settled bond is never read as more, whatever the bond. -/
theorem length_kept_render_le {bond : Bond} (settled : bond.Settled) :
    (kept (some (Bond.listShape.render [bond]))).length ≤ 1 := by
  cases read : Bond.listShape.read (Bond.listShape.render [bond]) with
  | error e => simp [kept, read]
  | ok bonds =>
      have made := Shape.ofTree_of_read_render
        ((Bond.settled_list_iff [bond]).2 (List.forall_mem_singleton.2 settled)) read
      have one : (Bond.shape.ofTree (Bond.shape.write bond) >>= fun other => pure [other]) =
          .ok bonds := made
      cases back : Bond.shape.ofTree (Bond.shape.write bond) with
      | error e =>
          rw [back] at one
          cases one
      | ok other =>
          rw [back] at one
          cases one
          simp [kept, read]

/-- A save either of whose calls may fail.  If the write fails, the list is as it was.  If only
the read fails, at most one bond is listed, whatever was listed before.  Otherwise the other bonds
that there is room for are listed exactly if the bond leaves room for the level of the list around
it.  The bonds that are written are to be settled. -/
theorem save_interrupted (backend : Backend (StateM σ)) (view : σ → String → Option String)
    (reliable : backend.Reliable view) (settings : CacheSettings)
    (positive : 1 ≤ settings.maxEntries) (faults : Nat → Option StoreError) (calls : Nat)
    (start : σ) (bond : Bond) :
    let cache : Cache (StateM σ) := ⟨backend, settings⟩
    let failing : Cache (StateM (σ × Nat)) := ⟨backend.interrupted faults, settings⟩
    let cached := (cache.list.run start).1
    let others := Bond.remaining settings.maxEntries.toNat bond cached
    ∃ after, (failing.save bond).run (start, calls) =
        ((faults (calls + 1)).isNone, after, calls + 2) ∧
      ((faults (calls + 1)).isSome → (cache.list.run after).1 = cached) ∧
      (bond.Settled → (faults (calls + 1)).isNone → (faults calls).isSome →
        (cache.list.run after).1.length ≤ 1) ∧
      (Bond.shape.Faithful bond → bond.Settled → (∀ other ∈ others, other.Settled) →
        (cache.list.run after).1 =
          (if (faults (calls + 1)).isSome then cached
          else if Bond.shape.levels bond ≤ 126 then
            bond :: (if (faults calls).isSome then [] else others)
          else []) ∧
        ((∀ other ∈ others, other ∈ (cache.list.run after).1) ↔
          (faults (calls + 1)).isSome ∨
            ((faults calls).isNone ∧ Bond.shape.levels bond ≤ 126) ∨ others = [])) := by
  intro cache failing cached others
  obtain ⟨after, saved, text⟩ :=
    interrupted_save_run settings faults calls reliable positive bond start
  have before : cached = kept (view start settings.key) := list_eq_kept settings reliable start
  have now : (cache.list.run after).1 = kept (view after settings.key) :=
    list_eq_kept settings reliable after
  refine ⟨after, saved, fun refused => ?_, fun settled written unread => ?_,
    fun faithful settled others_settled => ?_⟩
  · rw [now, text, if_pos refused, before]
  · have done : ¬ (faults (calls + 1)).isSome := by
      rw [Option.isNone_iff_eq_none] at written
      simp [written]
    have alone : Bond.remaining settings.maxEntries.toNat bond [] = [] := by
      simp [Bond.remaining]
    rw [now, text, if_neg done, if_pos unread,
      Bond.putFirst_eq (toNat_maxEntries_ne_zero positive), alone]
    exact length_kept_render_le settled
  · simp only [others, before] at others_settled
    have listed := interrupted_save_list reliable positive faithful settled others_settled text
    rw [← before] at listed
    refine ⟨listed, ?_⟩
    rw [listed]
    exact forall_remaining_iff _ bond cached _ _ _

def failingCall (number : Nat) : Nat → Option StoreError :=
  fun call => if call = number then some (.backend "refused") else none

theorem nestedSample_faithful (depth : Nat) : Bond.shape.Faithful (nestedSample depth) :=
  ((Bond.portable_iff _ _).1 (nestedSample_portable (Nat.le_refl _))).1

theorem save_interrupted_sample :
    let cache : Cache (StateM Memory) := ⟨Memory.backend, .standard⟩
    let failing : Cache (StateM (Memory × Nat)) :=
      ⟨Memory.backend.interrupted (failingCall 1), .standard⟩
    ∃ after, (failing.save (nestedSample 2)).run (sampleMemory, 0) = (false, after, 2) ∧
      (cache.list.run after).1 = [.sample] := by
  intro cache failing
  obtain ⟨after, saved, unchanged, -⟩ := save_interrupted Memory.backend Memory.get?
    Memory.backend_reliable .standard (by decide) (failingCall 1) 0 sampleMemory (nestedSample 2)
  exact ⟨after, saved, (unchanged rfl).trans list_sampleMemory⟩

/-- A save whose read fails and whose write does not is acknowledged, and drops the bond that was
there before although there is room for it. -/
theorem saved_but_others_lost :
    let cache : Cache (StateM Memory) := ⟨Memory.backend, .standard⟩
    let failing : Cache (StateM (Memory × Nat)) :=
      ⟨Memory.backend.interrupted (failingCall 0), .standard⟩
    let bond := nestedSample 2
    (cache.list.run sampleMemory).1 = [.sample] ∧
      Bond.remaining CacheSettings.standard.maxEntries.toNat bond [.sample] = [.sample] ∧
      ∃ after, (failing.save bond).run (sampleMemory, 0) = (true, after, 2) ∧
        (cache.list.run after).1 = [bond] ∧ Bond.sample ∉ (cache.list.run after).1 := by
  intro cache failing bond
  obtain ⟨after, saved, text⟩ := interrupted_save_run .standard (failingCall 0) 0
    Memory.backend_reliable (by decide) bond sampleMemory
  have listed : (cache.list.run after).1 = [bond] := by
    have small : Bond.shape.levels bond ≤ 126 := by decide
    have others : ∀ other ∈ Bond.remaining CacheSettings.standard.maxEntries.toNat bond
        (kept (sampleMemory.get? CacheSettings.standard.key)), other.Settled := by
      rw [kept_sampleMemory, remaining_sample]
      exact List.forall_mem_singleton.2 Bond.sample_settled
    refine (interrupted_save_list Memory.backend_reliable (by decide) (nestedSample_faithful 2)
      (by decide +kernel) others text).trans ?_
    rw [if_neg (by decide), if_pos small, if_pos (by decide)]
  refine ⟨list_sampleMemory, rfl, after, saved, listed, ?_⟩
  rw [listed]
  intro member
  have same : Bond.sample.id = bond.id := congrArg Bond.id (List.mem_singleton.1 member)
  exact absurd same (by decide)

end Cache

end HolderBond
