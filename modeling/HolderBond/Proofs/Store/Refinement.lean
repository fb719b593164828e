import HolderBond.Proofs.Bond.Transport
import HolderBond.Proofs.Store.ListMachine

/-!
# A cache is a list machine

Every operation of a cache reads its whole list from a text and writes it back as a text.  Over
a backend whose calls never fail this cannot be told from a list that is simply kept, whatever
the backend held to begin with, as long as the bonds that are read there and those that are saved
are settled.
-/

set_option autoImplicit false

namespace HolderBond

variable {σ : Type}

/-- A backend none of whose calls fails: it does what a map from keys to texts does, and the map
can be seen in its state. -/
structure Backend.Reliable (backend : Backend (StateM σ)) (view : σ → String → Option String) :
    Prop where
  get : ∀ key state, ∃ after, (backend.get key).run state = (.ok (view state key), after) ∧
    view after = view state
  set : ∀ key text state, ∃ after, (backend.set key text).run state = (.ok (), after) ∧
    ∀ other, view after other = if other = key then some text else view state other
  remove : ∀ key state, ∃ after, (backend.remove key).run state = (.ok (), after) ∧
    ∀ other, view after other = if other = key then none else view state other

theorem Memory.backend_reliable : Memory.backend.Reliable Memory.get? where
  get key memory := ⟨memory, rfl, rfl⟩
  set key text memory := by
    refine ⟨memory.insert key text, rfl, fun other => ?_⟩
    by_cases same : other = key
    · rw [if_pos same, same, Memory.get?_insert_same]
    · rw [if_neg same, Memory.get?_insert_other memory text same]
  remove key memory := by
    refine ⟨memory.erase key, rfl, fun other => ?_⟩
    by_cases same : other = key
    · rw [if_pos same, same, Memory.get?_erase_same]
    · rw [if_neg same, Memory.get?_erase_other memory same]

/-! ## Lists of bonds as texts -/

namespace Bond

theorem listShape_sound : Bond.listShape.Sound :=
  Bond.shape_sound

theorem floor_listShape : Bond.listShape.floor ≤ Json.maxLevels := by
  rw [listShape, Shape.floor, floor_shape]
  decide

theorem within_list_iff (bonds : List Bond) :
    Bond.listShape.Within 127 bonds ↔ ∀ bond ∈ bonds, bond.Portable 126 := by
  have levels : (Bond.listShape.write bonds).levels ≤ 127 ↔
      ∀ bond ∈ bonds, (Bond.shape.write bond).levels ≤ 126 := by
    have items : Json.itemsLevels (bonds.map Bond.shape.write) ≤ 126 ↔
        ∀ bond ∈ bonds, (Bond.shape.write bond).levels ≤ 126 := by
      rw [Json.itemsLevels_le_iff, List.forall_mem_map]
    exact Nat.succ_le_succ_iff.trans items
  constructor
  · rintro ⟨faithful, small⟩ bond member
    exact (portable_iff 126 bond).2 ⟨faithful bond member, levels.1 small bond member⟩
  · intro portable
    have within := fun bond member => (portable_iff 126 bond).1 (portable bond member)
    exact ⟨fun bond member => (within bond member).1,
      levels.2 fun bond member => (within bond member).2⟩

theorem settled_list_iff (bonds : List Bond) :
    (Bond.listShape.write bonds).Settled ↔ ∀ bond ∈ bonds, bond.Settled :=
  Json.settled_array_iff.trans List.forall_mem_map

/-- A bond that is read back from the list that it is written in. -/
structure Cacheable (bond : Bond) : Prop where
  portable : bond.Portable 126
  settled : bond.Settled

end Bond

namespace Cache

/-- The bonds that a key's text stands for; none where there is no text or it is no list. -/
def kept : Option String → List Bond
  | none => []
  | some text =>
      match Bond.listShape.read text with
      | .ok bonds => bonds
      | .error _ => []

theorem kept_render_of_reread? {bonds others : List Bond}
    (portable : ∀ bond ∈ others, bond.Portable 126)
    (back : (Bond.listShape.write bonds).reread? = some (Bond.listShape.write others)) :
    kept (some (Bond.listShape.render bonds)) = others := by
  obtain ⟨faithful, small⟩ := (Bond.within_list_iff others).2 portable
  rw [Json.levels_of_reread? _ back] at small
  have read : Bond.listShape.read (Bond.listShape.render bonds) = .ok others :=
    Shape.read_tree back small (Bond.listShape.ofTree_write Bond.listShape_sound others faithful)
  rw [kept, read]

theorem kept_render {bonds : List Bond} (cacheable : ∀ bond ∈ bonds, bond.Cacheable) :
    kept (some (Bond.listShape.render bonds)) = bonds :=
  kept_render_of_reread? (fun bond member => (cacheable bond member).portable)
    ((Bond.settled_list_iff bonds).2 fun bond member => (cacheable bond member).settled)

theorem portable_of_kept (text : Option String) : ∀ bond ∈ kept text, bond.Portable 126 := by
  cases text with
  | none => simp [kept]
  | some text =>
      cases read : Bond.listShape.read text with
      | error cause => simp [kept, read]
      | ok bonds =>
          have within := Shape.within_of_readGlyphs Bond.listShape_sound Bond.floor_listShape read
          rw [kept, read]
          exact (Bond.within_list_iff bonds).1 within

variable {m : Type → Type} [Monad m]

def perform (cache : Cache m) : CacheOp → m CacheAnswer
  | .save bond => .done <$> cache.save bond
  | .delete id => .done <$> cache.delete id
  | .clear => .done <$> cache.clear
  | .get id => .found <$> cache.get id
  | .list => .bonds <$> cache.list
  | .size => .count <$> cache.size
  | .isEmpty => .done <$> cache.isEmpty

def performAll (cache : Cache m) (ops : List CacheOp) : m (List CacheAnswer) :=
  ops.mapM cache.perform

/-! ## Runs -/

section Reliable

variable {backend : Backend (StateM σ)} {view : σ → String → Option String}
  (settings : CacheSettings)

/-- A state that keeps a list of bonds, all of which can be written. -/
structure Keeps (view : σ → String → Option String) (key : String) (state : σ)
    (bonds : List Bond) : Prop where
  kept : Cache.kept (view state key) = bonds
  cacheable : ∀ bond ∈ bonds, bond.Cacheable

theorem list_run (reliable : backend.Reliable view) (state : σ) :
    ∃ after, (Cache.list ⟨backend, settings⟩).run state = (kept (view state settings.key), after) ∧
      view after = view state := by
  obtain ⟨after, got, same⟩ := reliable.get settings.key state
  refine ⟨after, ?_, same⟩
  have tried : (Cache.tryList ⟨backend, settings⟩).run state =
      (match view state settings.key with
      | none => .ok []
      | some text => (Bond.listShape.read text).mapError .serialization, after) := by
    rw [tryList]
    simp only [StateT.run_bind, got]
    cases view state settings.key <;> rfl
  rw [list, StateT.run_bind, tried]
  cases view state settings.key with
  | none => rfl
  | some text =>
      rw [kept]
      dsimp only
      cases Bond.listShape.read text <;> rfl

theorem list_eq_kept (reliable : backend.Reliable view) (state : σ) :
    ((Cache.list ⟨backend, settings⟩).run state).1 = kept (view state settings.key) := by
  obtain ⟨after, got, -⟩ := list_run settings reliable state
  rw [got]

theorem write_writes (reliable : backend.Reliable view) (bonds : List Bond) (state : σ) :
    ∃ after, (Cache.write ⟨backend, settings⟩ bonds).run state = (true, after) ∧
      view after settings.key = some (Bond.listShape.render bonds) := by
  obtain ⟨after, written, same⟩ := reliable.set settings.key (Bond.listShape.render bonds) state
  refine ⟨after, ?_, ?_⟩
  · rw [write]
    simp only [StateT.run_bind, written]
    rfl
  · rw [same, if_pos rfl]

theorem maxEntries_ne_zero {settings : CacheSettings} (positive : settings.maxEntries.toNat ≠ 0) :
    settings.maxEntries ≠ 0 := by
  intro none
  rw [none] at positive
  exact positive rfl

theorem save_writes (reliable : backend.Reliable view) (positive : settings.maxEntries.toNat ≠ 0)
    (bond : Bond) (state : σ) :
    ∃ after, (Cache.save ⟨backend, settings⟩ bond).run state = (true, after) ∧
      view after settings.key = some (Bond.listShape.render
        (Bond.putFirst settings.maxEntries.toNat bond (kept (view state settings.key)))) := by
  obtain ⟨listed, got, -⟩ := list_run settings reliable state
  obtain ⟨after, written, text⟩ := write_writes settings reliable
    (Bond.putFirst settings.maxEntries.toNat bond (kept (view state settings.key))) listed
  refine ⟨after, ?_, text⟩
  rw [save, if_neg (maxEntries_ne_zero positive)]
  simp only [StateT.run_bind, got]
  exact written

theorem save_run (reliable : backend.Reliable view) {state : σ} {bonds : List Bond}
    (keeps : Keeps view settings.key state bonds) {bond : Bond} (cacheable : bond.Cacheable) :
    ∃ after, (Cache.save ⟨backend, settings⟩ bond).run state =
        (settings.maxEntries.toNat != 0, after) ∧
      Keeps view settings.key after
        (ListMachine.next settings.maxEntries.toNat bonds (.save bond)) := by
  by_cases zero : settings.maxEntries.toNat = 0
  · refine ⟨state, ?_, ?_⟩
    · rw [save, if_pos (UInt64.toNat_inj.1 zero), zero]
      rfl
    · rw [ListMachine.next, if_pos zero]
      exact keeps
  · obtain ⟨after, saved, text⟩ := save_writes settings reliable zero bond state
    rw [keeps.kept] at text
    have writable : ∀ other ∈ Bond.putFirst settings.maxEntries.toNat bond bonds,
        other.Cacheable := by
      intro other member
      rcases List.mem_cons.1 (List.mem_of_mem_take member) with rfl | old
      · exact cacheable
      · exact keeps.cacheable other (List.mem_of_mem_filter old)
    refine ⟨after, ?_, ?_⟩
    · rw [saved, bne_iff_ne.2 zero]
    · rw [ListMachine.next, if_neg zero]
      exact ⟨by rw [text, kept_render writable, Bond.putFirst], writable⟩

theorem delete_run (reliable : backend.Reliable view) {state : σ} {bonds : List Bond}
    (keeps : Keeps view settings.key state bonds) (id : String) :
    ∃ after, (Cache.delete ⟨backend, settings⟩ id).run state =
        (bonds.any fun bond => bond.id == id, after) ∧
      Keeps view settings.key after
        (ListMachine.next settings.maxEntries.toNat bonds (.delete id)) := by
  obtain ⟨listed, got, same⟩ := list_run settings reliable state
  rw [keeps.kept] at got
  have step : (Cache.delete ⟨backend, settings⟩ id).run state =
      (if (bonds.filter fun bond => bond.id != id).length = bonds.length then pure false
      else Cache.write ⟨backend, settings⟩ (bonds.filter fun bond => bond.id != id) :
        StateM σ Bool).run listed := by
    rw [delete]
    simp only [StateT.run_bind, got]
    rfl
  have missing : (bonds.filter fun bond => bond.id != id).length = bonds.length ↔
      bonds.any (fun bond => bond.id == id) = false := by
    rw [List.length_filter_eq_length_iff, List.any_eq_false]
    simp
  -- Where nothing goes, nothing is written, and the old text stays as it was.
  by_cases none : (bonds.filter fun bond => bond.id != id).length = bonds.length
  · refine ⟨listed, ?_, ?_⟩
    · rw [step, if_pos none, missing.1 none]
      rfl
    · rw [ListMachine.next, List.filter_eq_self.2 (List.length_filter_eq_length_iff.1 none)]
      exact ⟨by rw [same, keeps.kept], keeps.cacheable⟩
  · have some : bonds.any (fun bond => bond.id == id) = true :=
      (Bool.not_eq_false _).mp fun absent => none (missing.2 absent)
    have writable : ∀ bond ∈ bonds.filter fun bond => bond.id != id, bond.Cacheable :=
      fun bond member => keeps.cacheable bond (List.mem_of_mem_filter member)
    obtain ⟨after, written, text⟩ := write_writes settings reliable
      (bonds.filter fun bond => bond.id != id) listed
    refine ⟨after, ?_, by rw [text, kept_render writable, ListMachine.next], writable⟩
    rw [step, if_neg none, written, some]

theorem clear_run (reliable : backend.Reliable view) (state : σ) :
    ∃ after, (Cache.clear ⟨backend, settings⟩).run state = (true, after) ∧
      Keeps view settings.key after [] := by
  obtain ⟨after, removed, same⟩ := reliable.remove settings.key state
  refine ⟨after, ?_, ?_, by simp⟩
  · rw [clear]
    simp only [StateT.run_bind, removed]
    rfl
  · rw [same, if_pos rfl]
    rfl

/-- An operation is answered, and changes what is kept, as by the list machine. -/
theorem perform_run (reliable : backend.Reliable view) {state : σ} {bonds : List Bond}
    (keeps : Keeps view settings.key state bonds) (op : CacheOp)
    (cacheable : ∀ bond, op = .save bond → bond.Cacheable) :
    ∃ after, (Cache.perform ⟨backend, settings⟩ op).run state =
        (ListMachine.answer settings.maxEntries.toNat bonds op, after) ∧
      Keeps view settings.key after (ListMachine.next settings.maxEntries.toNat bonds op) := by
  obtain ⟨listed, got, same⟩ := list_run settings reliable state
  rw [keeps.kept] at got
  have still : Keeps view settings.key listed bonds := ⟨by rw [same, keeps.kept], keeps.cacheable⟩
  cases op with
  | save bond =>
      obtain ⟨after, saved, kept⟩ := save_run settings reliable keeps (cacheable bond rfl)
      refine ⟨after, ?_, kept⟩
      rw [perform, StateT.run_map, saved]
      rfl
  | delete id =>
      obtain ⟨after, deleted, kept⟩ := delete_run settings reliable keeps id
      refine ⟨after, ?_, kept⟩
      rw [perform, StateT.run_map, deleted]
      rfl
  | clear =>
      obtain ⟨after, cleared, kept⟩ := clear_run settings reliable state
      refine ⟨after, ?_, kept⟩
      rw [perform, StateT.run_map, cleared]
      rfl
  | get id =>
      refine ⟨listed, ?_, still⟩
      rw [perform, Cache.get]
      simp only [StateT.run_map, StateT.run_bind, got]
      rfl
  | list =>
      refine ⟨listed, ?_, still⟩
      rw [perform, StateT.run_map, got]
      rfl
  | size =>
      refine ⟨listed, ?_, still⟩
      rw [perform, size]
      simp only [StateT.run_map, StateT.run_bind, got]
      rfl
  | isEmpty =>
      refine ⟨listed, ?_, still⟩
      rw [perform, isEmpty, size]
      simp only [StateT.run_map, StateT.run_bind, got]
      cases bonds <;> rfl

theorem performAll_cons (cache : Cache (StateM σ)) (op : CacheOp) (ops : List CacheOp)
    (state : σ) :
    (cache.performAll (op :: ops)).run state =
      (((cache.perform op).run state).1 ::
          ((cache.performAll ops).run ((cache.perform op).run state).2).1,
        ((cache.performAll ops).run ((cache.perform op).run state).2).2) := by
  rw [performAll, List.mapM_cons]
  rfl

theorem performAll_run (reliable : backend.Reliable view) (ops : List CacheOp) {state : σ}
    {bonds : List Bond} (keeps : Keeps view settings.key state bonds)
    (cacheable : ∀ bond, .save bond ∈ ops → bond.Cacheable) :
    ∃ after, (Cache.performAll ⟨backend, settings⟩ ops).run state =
        (ListMachine.answers settings.maxEntries.toNat bonds ops, after) ∧
      Keeps view settings.key after (ListMachine.final settings.maxEntries.toNat bonds ops) := by
  induction ops generalizing state bonds with
  | nil => exact ⟨state, rfl, keeps⟩
  | cons op ops ih =>
      obtain ⟨middle, answered, keeps⟩ := perform_run settings reliable keeps op fun bond isSave =>
        cacheable bond (isSave ▸ List.mem_cons_self)
      obtain ⟨after, others, kept⟩ := ih keeps fun bond member =>
        cacheable bond (List.mem_cons_of_mem op member)
      refine ⟨after, ?_, kept⟩
      rw [performAll_cons, answered, others]
      rfl

theorem keeps_kept (view : σ → String → Option String) (key : String) (state : σ)
    (settled : ∀ bond ∈ kept (view state key), bond.Settled) :
    Keeps view key state (kept (view state key)) where
  kept := rfl
  cacheable bond member := ⟨portable_of_kept _ bond member, settled bond member⟩

end Reliable

/-- A cache over a backend that never fails answers every run of operations as the list machine
does that starts with what the backend holds, if the bonds there are settled and those that are
saved are read back from the list they are written in.  If the backend holds nothing and the cache
may keep anything, the bonds listed after a run are distinct, not too many, each as it was saved
last, and the later saved before the earlier. -/
theorem answers_as_list_machine (backend : Backend (StateM σ)) (view : σ → String → Option String)
    (reliable : backend.Reliable view) (settings : CacheSettings) (start : σ) (ops : List CacheOp)
    (settled : ∀ bond ∈ kept (view start settings.key), bond.Settled)
    (cacheable : ∀ bond, .save bond ∈ ops → bond.Cacheable) :
    ((performAll ⟨backend, settings⟩ ops).run start).1 =
        ListMachine.answers settings.maxEntries.toNat (kept (view start settings.key)) ops ∧
      (view start settings.key = none → 1 ≤ settings.maxEntries →
        ListMachine.Recent settings.maxEntries.toNat ops
          ((list ⟨backend, settings⟩).run
            ((performAll ⟨backend, settings⟩ ops).run start).2).1) := by
  have keeps := keeps_kept view settings.key start settled
  obtain ⟨after, answered, keeps⟩ := performAll_run settings reliable ops keeps cacheable
  rw [answered, list_eq_kept settings reliable, keeps.kept]
  refine ⟨rfl, fun absent positive => ?_⟩
  have nothing : kept (view start settings.key) = [] := by
    rw [absent]
    rfl
  rw [nothing]
  exact ListMachine.recent_final (UInt64.le_iff_toNat_le.1 positive) ops

theorem answers_as_list_machine_sample :
    ((performAll ⟨Memory.backend, .standard⟩
        [.save .sample, .delete "bond-2", .list]).run Memory.empty).1 =
      [.done true, .done false, .bonds [.sample]] ∧
    ListMachine.Recent 50 [.save .sample, .delete "bond-2", .list]
      ((list ⟨Memory.backend, .standard⟩).run ((performAll ⟨Memory.backend, .standard⟩
        [.save .sample, .delete "bond-2", .list]).run Memory.empty).2).1 := by
  have cacheable : ∀ bond, CacheOp.save bond ∈ [.save .sample, .delete "bond-2", .list] →
      bond.Cacheable := by
    intro bond member
    have same : bond = .sample := by simpa using member
    rw [same]
    exact ⟨Bond.sample_portable, Bond.sample_settled⟩
  have settled : ∀ bond ∈ kept (Memory.empty.get? CacheSettings.standard.key), bond.Settled := by
    intro bond member
    cases member
  obtain ⟨answered, recent⟩ := answers_as_list_machine Memory.backend Memory.get?
    Memory.backend_reliable .standard Memory.empty _ settled cacheable
  refine ⟨answered.trans ?_, recent rfl (by decide)⟩
  rfl

/-- A memory that holds the text of a bond which is read as its twin. -/
def twinMemory : Memory :=
  Memory.empty.insert CacheSettings.standard.key (Bond.listShape.render [.measured Bond.lowTwin])

def secondSample : Bond :=
  { Bond.sample with id := "bond-2" }

/-- Saving another bond turns a bond that is kept into a different one. -/
theorem kept_bond_changed :
    kept (twinMemory.get? CacheSettings.standard.key) = [.measured Bond.highTwin] ∧
      secondSample.Cacheable ∧
      ((performAll ⟨Memory.backend, .standard⟩ [.save secondSample, .list]).run twinMemory).1 =
        [.done true, .bonds [secondSample, .measured Bond.lowTwin]] ∧
      ListMachine.answers 50 [.measured Bond.highTwin] [.save secondSample, .list] =
        [.done true, .bonds [secondSample, .measured Bond.highTwin]] ∧
      Bond.measured Bond.highTwin ≠ .measured Bond.lowTwin := by
  have second : secondSample.Cacheable :=
    ⟨{ Bond.sample_portable with }, by decide +kernel⟩
  have before : kept (twinMemory.get? CacheSettings.standard.key) = [.measured Bond.highTwin] := by
    rw [twinMemory, Memory.get?_insert_same]
    refine kept_render_of_reread? ?_ (by decide +kernel)
    simpa using Bond.measured_portable _
  obtain ⟨after, saved, text⟩ :=
    save_writes .standard Memory.backend_reliable (by decide) secondSample twinMemory
  have now : kept (after.get? CacheSettings.standard.key) =
      [secondSample, .measured Bond.lowTwin] := by
    rw [text, before]
    refine kept_render_of_reread? ?_ (by decide +kernel)
    simpa using ⟨second.portable, Bond.measured_portable _⟩
  obtain ⟨last, listed, -⟩ := list_run .standard Memory.backend_reliable after
  refine ⟨before, second, ?_, rfl, Bond.twins_differ⟩
  rw [now] at listed
  have savedFirst : (perform ⟨Memory.backend, .standard⟩ (.save secondSample)).run twinMemory =
      (.done true, after) := by
    rw [perform, StateT.run_map, saved]
    rfl
  have listedThen : (perform ⟨Memory.backend, .standard⟩ .list).run after =
      (.bonds [secondSample, .measured Bond.lowTwin], last) := by
    rw [perform, StateT.run_map, listed]
    rfl
  rw [performAll_cons, savedFirst, performAll_cons, listedThen]
  rfl

end Cache

end HolderBond
