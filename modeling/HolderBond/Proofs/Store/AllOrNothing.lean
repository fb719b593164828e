import HolderBond.Proofs.Store.Interruption

/-!
# Done or not done

The calls of a backend may fail at any time, changing nothing when they do.  An operation of a
cache makes several such calls and answers with one word.  If that word is no, nothing at all has
changed; if it is yes, exactly the text of the new list stands under the key of the cache.  No
other key is ever touched.  This holds at every step of a run, whatever the backend holds and
in whatever pattern its calls fail.
-/

set_option autoImplicit false

namespace HolderBond

variable {σ : Type} {backend : Backend (StateM σ)} {view : σ → String → Option String}
  {settings : CacheSettings}

/-- A backend whose calls may fail but then change nothing; the others do what a map from keys to
texts does. -/
structure Backend.Careful (backend : Backend (StateM σ)) (view : σ → String → Option String) :
    Prop where
  get : ∀ key state, match (backend.get key).run state with
    | (.ok found, after) => found = view state key ∧ view after = view state
    | (.error _, after) => view after = view state
  set : ∀ key text state, match (backend.set key text).run state with
    | (.ok (), after) => view after = Function.update (view state) key (some text)
    | (.error _, after) => view after = view state
  remove : ∀ key state, match (backend.remove key).run state with
    | (.ok (), after) => view after = Function.update (view state) key none
    | (.error _, after) => view after = view state

theorem Backend.Reliable.careful_interrupted (reliable : backend.Reliable view)
    (faults : Nat → Option StoreError) :
    (backend.interrupted faults).Careful fun state => view state.1 where
  get key := by
    rintro ⟨state, calls⟩
    obtain ⟨after, got, same⟩ := reliable.get key state
    rw [interrupted, run_attempt, got]
    cases faults calls with
    | none => exact ⟨rfl, same⟩
    | some fault => rfl
  set key text := by
    rintro ⟨state, calls⟩
    obtain ⟨after, done, same⟩ := reliable.set key text state
    rw [interrupted, run_attempt, done]
    cases faults calls with
    | none =>
        funext other
        simp [same, Function.update_apply]
    | some fault => rfl
  remove key := by
    rintro ⟨state, calls⟩
    obtain ⟨after, done, same⟩ := reliable.remove key state
    rw [interrupted, run_attempt, done]
    cases faults calls with
    | none =>
        funext other
        simp [same, Function.update_apply]
    | some fault => rfl

namespace Cache

/-! ## Runs -/

structure Step (σ : Type) where
  op : CacheOp
  answer : CacheAnswer
  before : σ
  after : σ

def step (cache : Cache (StateM σ)) (op : CacheOp) (state : σ) : Step σ :=
  ⟨op, ((cache.perform op).run state).1, state, ((cache.perform op).run state).2⟩

def steps (cache : Cache (StateM σ)) : List CacheOp → σ → List (Step σ)
  | [], _ => []
  | op :: ops, state => cache.step op state :: cache.steps ops (cache.step op state).after

theorem step_save (cache : Cache (StateM σ)) (bond : Bond) (state : σ) :
    cache.step (.save bond) state =
      ⟨.save bond, .done ((cache.save bond).run state).1, state, ((cache.save bond).run state).2⟩ :=
  rfl

theorem step_delete (cache : Cache (StateM σ)) (id : String) (state : σ) :
    cache.step (.delete id) state =
      ⟨.delete id, .done ((cache.delete id).run state).1, state, ((cache.delete id).run state).2⟩ :=
  rfl

theorem step_clear (cache : Cache (StateM σ)) (state : σ) :
    cache.step .clear state =
      ⟨.clear, .done (cache.clear.run state).1, state, (cache.clear.run state).2⟩ :=
  rfl

theorem map_answer_steps (cache : Cache (StateM σ)) (ops : List CacheOp) (state : σ) :
    (cache.steps ops state).map Step.answer = ((cache.performAll ops).run state).1 := by
  induction ops generalizing state with
  | nil => rfl
  | cons op ops ih =>
      rw [steps, List.map_cons, ih, performAll_cons]
      rfl

/-! ## One operation -/

/-- The list that an operation starts from: what is kept, or nothing if it cannot be told. -/
def heard (backend : Backend (StateM σ)) (view : σ → String → Option String) (key : String)
    (state : σ) : List Bond :=
  if ((backend.get key).run state).1.isOk then kept (view state key) else []

/-- What an operation has done, by its answer. -/
structure AllOrNothing (cache : Cache (StateM σ)) (view : σ → String → Option String)
    (step : Step σ) : Prop where
  refused : step.answer = .done false → view step.after = view step.before
  reading : (∃ id, step.op = .get id) ∨ step.op = .list ∨ step.op = .size ∨ step.op = .isEmpty →
    view step.after = view step.before
  saved : ∀ bond, step.op = .save bond → step.answer = .done true →
    view step.after cache.settings.key = some (Bond.listShape.render
      (Bond.putFirst cache.settings.maxEntries.toNat bond
        (heard cache.backend view cache.settings.key step.before)))
  deleted : ∀ id, step.op = .delete id → step.answer = .done true →
    (∃ bond ∈ kept (view step.before cache.settings.key), bond.id = id) ∧
      view step.after cache.settings.key = some (Bond.listShape.render
        ((kept (view step.before cache.settings.key)).filter fun bond => bond.id != id))
  cleared : step.op = .clear → step.answer = .done true →
    view step.after cache.settings.key = none
  others : ∀ other, other ≠ cache.settings.key → view step.after other = view step.before other

theorem heard_eq_nil_or (backend : Backend (StateM σ)) (view : σ → String → Option String)
    (key : String) (state : σ) :
    heard backend view key state = [] ∨ heard backend view key state = kept (view state key) := by
  rw [heard]
  split
  · exact .inr rfl
  · exact .inl rfl

variable (settings) in
theorem careful_list_run (careful : backend.Careful view) (state : σ) :
    ∃ after, (Cache.list ⟨backend, settings⟩).run state =
        (heard backend view settings.key state, after) ∧ view after = view state := by
  have call := careful.get settings.key state
  rw [list_eq_map, StateT.run_map, heard]
  generalize (backend.get settings.key).run state = result at call ⊢
  obtain ⟨found | found, after⟩ := result
  · exact ⟨after, rfl, call⟩
  · obtain ⟨rfl, same⟩ := call
    exact ⟨after, rfl, same⟩

variable (settings) in
theorem careful_write_run (careful : backend.Careful view) (bonds : List Bond) (state : σ) :
    ∃ done after, (Cache.write ⟨backend, settings⟩ bonds).run state = (done, after) ∧
      view after = if done then
          Function.update (view state) settings.key (some (Bond.listShape.render bonds))
        else view state := by
  have call := careful.set settings.key (Bond.listShape.render bonds) state
  rw [write_eq_map, StateT.run_map]
  generalize (backend.set settings.key (Bond.listShape.render bonds)).run state = result at call ⊢
  obtain ⟨fault | _, after⟩ := result
  · exact ⟨false, after, rfl, call⟩
  · exact ⟨true, after, rfl, call⟩

variable (settings) in
theorem careful_save_run (careful : backend.Careful view) (bond : Bond) (state : σ) :
    ∃ done after, (Cache.save ⟨backend, settings⟩ bond).run state = (done, after) ∧
      view after = if done then
          Function.update (view state) settings.key (some (Bond.listShape.render
            (Bond.putFirst settings.maxEntries.toNat bond
              (heard backend view settings.key state))))
        else view state := by
  by_cases none : settings.maxEntries = 0
  · refine ⟨false, state, ?_, rfl⟩
    rw [save, if_pos none]
    rfl
  · obtain ⟨listed, got, same⟩ := careful_list_run settings careful state
    obtain ⟨done, after, written, changed⟩ := careful_write_run settings careful
      (Bond.putFirst settings.maxEntries.toNat bond (heard backend view settings.key state)) listed
    refine ⟨done, after, ?_, ?_⟩
    · rw [save, if_neg none]
      simp only [StateT.run_bind, got]
      exact written
    · rw [changed, same]

variable (settings) in
theorem careful_delete_run (careful : backend.Careful view) (id : String) (state : σ) :
    ∃ done after, (Cache.delete ⟨backend, settings⟩ id).run state = (done, after) ∧
      (done = true → ∃ bond ∈ kept (view state settings.key), bond.id = id) ∧
      view after = if done then
          Function.update (view state) settings.key (some (Bond.listShape.render
            ((kept (view state settings.key)).filter fun bond => bond.id != id)))
        else view state := by
  obtain ⟨listed, got, same⟩ := careful_list_run settings careful state
  generalize bonds_eq : heard backend view settings.key state = bonds at got
  have step : (Cache.delete ⟨backend, settings⟩ id).run state =
      (if (bonds.filter fun bond => bond.id != id).length = bonds.length then pure false
      else Cache.write ⟨backend, settings⟩ (bonds.filter fun bond => bond.id != id) :
        StateM σ Bool).run listed := by
    rw [delete]
    simp only [StateT.run_bind, got]
    rfl
  by_cases none : (bonds.filter fun bond => bond.id != id).length = bonds.length
  · refine ⟨false, listed, ?_, by simp, same⟩
    rw [step, if_pos none]
    rfl
  · obtain ⟨done, after, written, changed⟩ := careful_write_run settings careful
      (bonds.filter fun bond => bond.id != id) listed
    have some : ∃ bond ∈ bonds, bond.id = id := by
      by_contra absent
      simp only [not_exists, not_and] at absent
      exact none (List.length_filter_eq_length_iff.2 fun bond member => by
        simpa using absent bond member)
    -- Nothing is dropped from a list that could not be read, since it counts as empty.
    have read : bonds = kept (view state settings.key) := by
      rcases heard_eq_nil_or backend view settings.key state with empty | read
      · obtain ⟨bond, member, -⟩ := some
        rw [← bonds_eq, empty] at member
        cases member
      · exact bonds_eq.symm.trans read
    refine ⟨done, after, ?_, fun _ => read ▸ some, ?_⟩
    · rw [step, if_neg none, written]
    · rw [changed, same, read]

variable (settings) in
theorem careful_clear_run (careful : backend.Careful view) (state : σ) :
    ∃ done after, (Cache.clear ⟨backend, settings⟩).run state = (done, after) ∧
      view after = if done then Function.update (view state) settings.key none
        else view state := by
  have call := careful.remove settings.key state
  rw [clear]
  simp only [StateT.run_bind]
  generalize (backend.remove settings.key).run state = result at call ⊢
  obtain ⟨fault | _, after⟩ := result
  · exact ⟨false, after, rfl, call⟩
  · exact ⟨true, after, rfl, call⟩

theorem changed_cases {before after : String → Option String} {key : String} {done : Bool}
    {text : Option String}
    (changed : after = if done then Function.update before key text else before) :
    (done = false → after = before) ∧ (done = true → after key = text) ∧
      ∀ other, other ≠ key → after other = before other := by
  cases done with
  | false => exact ⟨fun _ => changed, by simp, fun other _ => congrFun changed other⟩
  | true =>
      have updated : after = Function.update before key text := changed
      refine ⟨by simp, fun _ => ?_, fun other distinct => ?_⟩
      · rw [updated, Function.update_self]
      · rw [updated, Function.update_of_ne distinct]

theorem allOrNothing_of_same {cache : Cache (StateM σ)} {step : Step σ}
    (same : view step.after = view step.before)
    (reads : ∀ id bond, step.op ≠ .save bond ∧ step.op ≠ .delete id ∧ step.op ≠ .clear) :
    AllOrNothing cache view step where
  refused _ := same
  reading _ := same
  saved bond isSave := absurd isSave (reads "" bond).1
  deleted id isDelete := absurd isDelete (reads id .sample).2.1
  cleared isClear := absurd isClear (reads "" .sample).2.2
  others other _ := congrFun same other

variable (settings) in
theorem step_allOrNothing (careful : backend.Careful view) (op : CacheOp) (state : σ) :
    AllOrNothing ⟨backend, settings⟩ view (Cache.step ⟨backend, settings⟩ op state) := by
  obtain ⟨listed, got, same⟩ := careful_list_run settings careful state
  cases op with
  | save bond =>
      obtain ⟨done, after, saved, changed⟩ := careful_save_run settings careful bond state
      obtain ⟨refused, written, others⟩ := changed_cases changed
      rw [step_save, saved]
      refine ⟨?_, by simp, ?_, by simp, by simp, others⟩
      · rintro ⟨⟩
        exact refused rfl
      · rintro _ ⟨⟩ ⟨⟩
        exact written rfl
  | delete id =>
      obtain ⟨done, after, deleted, found, changed⟩ := careful_delete_run settings careful id state
      obtain ⟨refused, written, others⟩ := changed_cases changed
      rw [step_delete, deleted]
      refine ⟨?_, by simp, by simp, ?_, by simp, others⟩
      · rintro ⟨⟩
        exact refused rfl
      · rintro _ ⟨⟩ ⟨⟩
        exact ⟨found rfl, written rfl⟩
  | clear =>
      obtain ⟨done, after, cleared, changed⟩ := careful_clear_run settings careful state
      obtain ⟨refused, removed, others⟩ := changed_cases changed
      rw [step_clear, cleared]
      refine ⟨?_, by simp, by simp, by simp, ?_, others⟩
      · rintro ⟨⟩
        exact refused rfl
      · rintro - ⟨⟩
        exact removed rfl
  | get id =>
      refine allOrNothing_of_same (Eq.trans ?_ same) (by simp [step])
      simp only [step, perform, Cache.get, StateT.run_map, StateT.run_bind, got]
      rfl
  | list =>
      refine allOrNothing_of_same (Eq.trans ?_ same) (by simp [step])
      simp only [step, perform, StateT.run_map, got]
      rfl
  | size =>
      refine allOrNothing_of_same (Eq.trans ?_ same) (by simp [step])
      simp only [step, perform, size, StateT.run_map, StateT.run_bind, got]
      rfl
  | isEmpty =>
      refine allOrNothing_of_same (Eq.trans ?_ same) (by simp [step])
      simp only [step, perform, isEmpty, size, StateT.run_map, StateT.run_bind, got]
      rfl

/-! ## Whole runs -/

variable (settings) in
theorem steps_allOrNothing (careful : backend.Careful view) (ops : List CacheOp) (state : σ) :
    ∀ step ∈ Cache.steps ⟨backend, settings⟩ ops state,
      AllOrNothing ⟨backend, settings⟩ view step := by
  induction ops generalizing state with
  | nil => simp [steps]
  | cons op ops ih =>
      rw [steps, List.forall_mem_cons]
      exact ⟨step_allOrNothing settings careful op state, ih _⟩

/-- What no step of a run changes is as it was at the end. -/
theorem run_unchanged {α : Type} (cache : Cache (StateM σ)) (observe : σ → α)
    (ops : List CacheOp) (state : σ)
    (unchanged : ∀ step ∈ cache.steps ops state, observe step.after = observe step.before) :
    observe ((cache.performAll ops).run state).2 = observe state := by
  induction ops generalizing state with
  | nil => rfl
  | cons op ops ih =>
      rw [steps, List.forall_mem_cons] at unchanged
      rw [performAll_cons]
      exact (ih _ unchanged.2).trans unchanged.1

variable (settings) in
theorem step_unchanged (careful : backend.Careful view) (op : CacheOp) (state : σ)
    (done : (Cache.step ⟨backend, settings⟩ op state).answer = .done true → op = .isEmpty) :
    view (Cache.step ⟨backend, settings⟩ op state).after = view state := by
  have law := step_allOrNothing settings careful op state
  have no : ∀ yes : Bool, (Cache.step ⟨backend, settings⟩ op state).answer = .done yes →
      op ≠ .isEmpty → view (Cache.step ⟨backend, settings⟩ op state).after = view state := by
    intro yes answered changes
    cases yes with
    | false => exact law.refused answered
    | true => exact absurd (done answered) changes
  cases op with
  | save bond => exact no ((Cache.save ⟨backend, settings⟩ bond).run state).1 rfl (by simp)
  | delete id => exact no ((Cache.delete ⟨backend, settings⟩ id).run state).1 rfl (by simp)
  | clear => exact no ((Cache.clear ⟨backend, settings⟩).run state).1 rfl (by simp)
  | get id => exact law.reading (.inl ⟨id, rfl⟩)
  | list => exact law.reading (.inr (.inl rfl))
  | size => exact law.reading (.inr (.inr (.inl rfl)))
  | isEmpty => exact law.reading (.inr (.inr (.inr rfl)))

variable (settings) in
theorem steps_unchanged (careful : backend.Careful view) (ops : List CacheOp) (state : σ)
    (done : ∀ step ∈ Cache.steps ⟨backend, settings⟩ ops state,
      step.answer = .done true → step.op = .isEmpty) :
    ∀ step ∈ Cache.steps ⟨backend, settings⟩ ops state, view step.after = view step.before := by
  induction ops generalizing state with
  | nil => simp [steps]
  | cons op ops ih =>
      rw [steps, List.forall_mem_cons] at done ⊢
      exact ⟨step_unchanged settings careful op state done.1, ih _ done.2⟩

/-- At every step of a run in which any calls fail, an operation that answers no has changed
nothing, and one that answers yes has changed the text under the key of the cache as it should and
nothing else.  So the run as a whole leaves the other keys alone, and changes nothing if nothing
was done. -/
theorem all_or_nothing (backend : Backend (StateM σ)) (view : σ → String → Option String)
    (careful : backend.Careful view) (settings : CacheSettings) (start : σ) (ops : List CacheOp) :
    let cache : Cache (StateM σ) := ⟨backend, settings⟩
    let steps := cache.steps ops start
    let final := ((cache.performAll ops).run start).2
    steps.map Step.answer = ((cache.performAll ops).run start).1 ∧
      (∀ step ∈ steps, AllOrNothing cache view step) ∧
      (∀ other, other ≠ settings.key → view final other = view start other) ∧
      ((∀ step ∈ steps, step.answer = .done true → step.op = .isEmpty) →
        view final = view start) := by
  intro cache steps final
  have laws := steps_allOrNothing settings careful ops start
  refine ⟨map_answer_steps cache ops start, laws, fun other distinct => ?_, fun done => ?_⟩
  · refine run_unchanged cache (fun state => view state other) ops start fun step member => ?_
    exact (laws step member).others other distinct
  · exact run_unchanged cache view ops start (steps_unchanged settings careful ops start done)

theorem all_or_nothing_sample :
    let cache : Cache (StateM (Memory × Nat)) :=
      ⟨Memory.backend.interrupted (failingCall 1), .standard⟩
    let saving := cache.step (.save (nestedSample 2)) (sampleMemory, 0)
    let clearing := cache.step .clear saving.after
    saving.answer = .done false ∧ saving.after.1.get? = sampleMemory.get? ∧
      clearing.answer = .done true ∧
      clearing.after.1.get? CacheSettings.standard.key = none := by
  intro cache saving clearing
  have laws := (all_or_nothing (Memory.backend.interrupted (failingCall 1))
    (fun state => state.1.get?) (Memory.backend_reliable.careful_interrupted (failingCall 1))
    .standard (sampleMemory, 0) [.save (nestedSample 2), .clear]).2.1
  have saved := laws saving List.mem_cons_self
  have cleared := laws clearing (List.mem_cons_of_mem _ List.mem_cons_self)
  obtain ⟨after, run, -⟩ := interrupted_save_run .standard (failingCall 1) 0
    Memory.backend_reliable (by decide) (nestedSample 2) sampleMemory
  have saves : saving =
      ⟨.save (nestedSample 2), .done false, (sampleMemory, 0), (after, 2)⟩ := by
    rw [show saving = _ from step_save _ _ _, run]
    rfl
  have clears : clearing = cache.step .clear (after, 2) := by
    rw [show clearing = cache.step .clear saving.after from rfl, saves]
  have refused : saving.answer = .done false := by rw [saves]
  have removed : clearing.answer = .done true := by
    rw [clears]
    rfl
  exact ⟨refused, saved.refused refused, removed, cleared.cleared rfl removed⟩

end Cache

end HolderBond
