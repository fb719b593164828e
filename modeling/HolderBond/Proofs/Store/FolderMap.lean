import HolderBond.Proofs.Store.Folder
import Mathlib.Data.Set.Function

/-!
# A folder as a memory

A folder in which nothing fails answers as a memory does whose keys are first made plain.  It
answers as a memory does for a set of keys exactly if no two of them are made the same; keys that
are share one file, and setting one of them sets the others.
-/

set_option autoImplicit false

namespace HolderBond

/-! ## Calls -/

inductive BackendOp where
  | get (key : String)
  | set (key text : String)
  | remove (key : String)

inductive BackendAnswer where
  | found (text : Except StoreError (Option String))
  | done (outcome : Except StoreError Unit)

namespace BackendOp

def key : BackendOp → String
  | .get key | .set key _ | .remove key => key

def mapKey (f : String → String) : BackendOp → BackendOp
  | .get key => .get (f key)
  | .set key text => .set (f key) text
  | .remove key => .remove (f key)

theorem map_mapKey_id (ops : List BackendOp) : ops.map (mapKey id) = ops := by
  have same : ∀ op : BackendOp, op.mapKey id = op := fun op => by cases op <;> rfl
  rw [List.map_congr_left fun op _ => same op, List.map_id']

end BackendOp

namespace Backend

variable {m : Type → Type} [Monad m]

def perform (backend : Backend m) : BackendOp → m BackendAnswer
  | .get key => .found <$> backend.get key
  | .set key text => .done <$> backend.set key text
  | .remove key => .done <$> backend.remove key

def performAll (backend : Backend m) (ops : List BackendOp) : m (List BackendAnswer) :=
  ops.mapM backend.perform

theorem performAll_cons_run {σ : Type} (backend : Backend (StateM σ)) (op : BackendOp)
    (ops : List BackendOp) {state middle after : σ} {answer : BackendAnswer}
    {answers : List BackendAnswer} (first : (backend.perform op).run state = (answer, middle))
    (rest : (backend.performAll ops).run middle = (answers, after)) :
    (backend.performAll (op :: ops)).run state = (answer :: answers, after) := by
  have rest : (ops.mapM backend.perform).run middle = (answers, after) := rest
  rw [performAll, List.mapM_cons, run_bind_eq first, run_bind_eq rest]
  rfl

end Backend

namespace Folder

variable {σ : Type} {files : FileAccess (StateM σ)} {folder : String}
  {contents : σ → Name → Option (List UInt8)}

/-- A folder that behaves as a map from names to bytes: no call fails, except that what is not
there can be neither read nor removed. -/
structure BehavesAsMap (files : FileAccess (StateM σ)) (folder : String)
    (contents : σ → Name → Option (List UInt8)) : Prop where
  read : ∀ name state, ∃ after, (files.read (path folder name.1)).run state =
    ((contents state name).elim (.error .notFound) .ok, after) ∧ contents after = contents state
  write : ∀ name bytes state, ∃ after,
    (files.write (path folder name.1) bytes).run state = (.ok (), after) ∧
      contents after = Function.update (contents state) name (some bytes)
  rename : ∀ source target bytes state, contents state source = some bytes → ∃ after,
    (files.rename (path folder source.1) (path folder target.1)).run state = (.ok (), after) ∧
      contents after =
        Function.update (Function.update (contents state) source none) target (some bytes)
  remove : ∀ name state, ∃ after, (files.remove (path folder name.1)).run state =
      ((contents state name).elim (.error .notFound) fun _ => .ok (), after) ∧
    contents after = Function.update (contents state) name none

theorem BehavesAsMap.get_run (works : BehavesAsMap files folder contents) (key : String)
    (state : σ) :
    ∃ after, (get files folder key).run state =
        (answerOf ((contents state (file key)).elim (.error .notFound) .ok), after) ∧
      contents after = contents state := by
  obtain ⟨after, read, same⟩ := works.read (file key) state
  exact ⟨after, Folder.get_run read, same⟩

theorem BehavesAsMap.set_run (works : BehavesAsMap files folder contents) (key text : String)
    (state : σ) :
    ∃ after, (set files folder key text).run state = (.ok (), after) ∧
      ∀ name, name ≠ temporary key → contents after name =
        if name = file key then some (Text.utf8 text) else contents state name := by
  obtain ⟨middle, writes, written⟩ := works.write (temporary key) (Text.utf8 text) state
  have holds : contents middle (temporary key) = some (Text.utf8 text) := by
    rw [written, Function.update_self]
  obtain ⟨after, renames, moved⟩ := works.rename (temporary key) (file key) _ middle holds
  have writing : (files.writeText (path folder (temporaryName key)) text).run state =
      (.ok (), middle) := writes
  have moving : (files.rename (path folder (temporaryName key))
      (path folder (fileName key))).run middle = (.ok (), after) := renames
  refine ⟨after, ?_, fun name other => ?_⟩
  · rw [set, run_bind_eq writing]
    exact run_bind_eq moving
  · rw [moved, Function.update_apply, Function.update_of_ne other, written,
      Function.update_of_ne other]

theorem BehavesAsMap.remove_run (works : BehavesAsMap files folder contents) (key : String)
    (state : σ) :
    ∃ after, (Folder.remove files folder key).run state = (.ok (), after) ∧
      contents after = Function.update (contents state) (file key) none := by
  obtain ⟨after, removes, changed⟩ := works.remove (file key) state
  refine ⟨after, ?_, changed⟩
  have removing : (files.remove (path folder (fileName key))).run state =
      ((contents state (file key)).elim (.error .notFound) fun _ => .ok (), after) := removes
  rw [Folder.remove, run_bind_eq removing]
  cases contents state (file key) <;> rfl

/-! ## Runs -/

variable {f : String → String} {keys : Set String} {state : σ} {memory : Memory}

/-- The files of some keys hold what a memory holds under what the keys are turned into. -/
def Mirrors (f : String → String) (keys : Set String) (held : Name → Option (List UInt8))
    (memory : Memory) : Prop :=
  ∀ key ∈ keys, held (file key) = (memory.get? (f key)).map Text.utf8

theorem Mirrors.insert {held later : Name → Option (List UInt8)} {key text : String}
    (same : ∀ other ∈ keys, plainKey other = plainKey key ↔ f other = f key)
    (mirrors : Mirrors f keys held memory)
    (changed : ∀ name, name ≠ temporary key → later name =
      if name = file key then some (Text.utf8 text) else held name) :
    Mirrors f keys later (memory.insert (f key) text) := by
  intro other known
  rw [changed (file other) (temporary_ne_file key other).symm]
  by_cases shared : f other = f key
  · rw [if_pos ((file_eq_iff other key).2 ((same other known).2 shared)), shared,
      Memory.get?_insert_same]
    rfl
  · rw [if_neg fun equal => shared ((same other known).1 ((file_eq_iff other key).1 equal)),
      Memory.get?_insert_other memory text shared, mirrors other known]

theorem Mirrors.erase {held : Name → Option (List UInt8)} {key : String}
    (same : ∀ other ∈ keys, plainKey other = plainKey key ↔ f other = f key)
    (mirrors : Mirrors f keys held memory) :
    Mirrors f keys (Function.update held (file key) none) (memory.erase (f key)) := by
  intro other known
  rw [Function.update_apply]
  by_cases shared : f other = f key
  · rw [if_pos ((file_eq_iff other key).2 ((same other known).2 shared)), shared,
      Memory.get?_erase_same]
    rfl
  · rw [if_neg fun equal => shared ((same other known).1 ((file_eq_iff other key).1 equal)),
      Memory.get?_erase_other memory shared, mirrors other known]

/-- A call is answered by the folder as by the memory that it mirrors, and mirrored again. -/
theorem perform_mirrors (works : BehavesAsMap files folder contents)
    (same : ∀ key ∈ keys, ∀ other ∈ keys, plainKey other = plainKey key ↔ f other = f key)
    (mirrors : Mirrors f keys (contents state) memory) (op : BackendOp) (known : op.key ∈ keys) :
    ∃ answer after later, ((backend files folder).perform op).run state = (answer, after) ∧
      (Memory.backend.perform (op.mapKey f)).run memory = (answer, later) ∧
      Mirrors f keys (contents after) later := by
  cases op with
  | get key =>
      obtain ⟨after, got, unchanged⟩ := works.get_run key state
      have answer : answerOf ((contents state (file key)).elim (.error .notFound) .ok) =
          .ok (memory.get? (f key)) := by
        rw [mirrors key known]
        cases memory.get? (f key) with
        | none => rfl
        | some text => exact answerOf_utf8 text
      refine ⟨.found (.ok (memory.get? (f key))), after, memory, ?_, rfl, ?_⟩
      · rw [Backend.perform, StateT.run_map, backend, got, answer]
        rfl
      · rw [unchanged]
        exact mirrors
  | set key text =>
      obtain ⟨after, done, changed⟩ := works.set_run key text state
      refine ⟨.done (.ok ()), after, memory.insert (f key) text, ?_, rfl,
        mirrors.insert (same key known) changed⟩
      rw [Backend.perform, StateT.run_map, backend, done]
      rfl
  | remove key =>
      obtain ⟨after, done, changed⟩ := works.remove_run key state
      refine ⟨.done (.ok ()), after, memory.erase (f key), ?_, rfl, ?_⟩
      · rw [Backend.perform, StateT.run_map, backend, done]
        rfl
      · rw [changed]
        exact mirrors.erase (same key known)

theorem performAll_mirrors (works : BehavesAsMap files folder contents)
    (same : ∀ key ∈ keys, ∀ other ∈ keys, plainKey other = plainKey key ↔ f other = f key)
    (ops : List BackendOp) (known : ∀ op ∈ ops, op.key ∈ keys)
    (mirrors : Mirrors f keys (contents state) memory) :
    ∃ answers after later, ((backend files folder).performAll ops).run state = (answers, after) ∧
      (Memory.backend.performAll (ops.map (·.mapKey f))).run memory = (answers, later) := by
  induction ops generalizing state memory with
  | nil => exact ⟨[], state, memory, rfl, rfl⟩
  | cons op ops ih =>
      rw [List.forall_mem_cons] at known
      obtain ⟨answer, middle, between, here, there, mirrors⟩ :=
        perform_mirrors works same mirrors op known.1
      obtain ⟨answers, after, later, restHere, restThere⟩ := ih known.2 mirrors
      exact ⟨answer :: answers, after, later, Backend.performAll_cons_run _ op ops here restHere,
        Backend.performAll_cons_run _ _ _ there restThere⟩

theorem answers_eq (works : BehavesAsMap files folder contents) (start : σ)
    (empty : ∀ name, contents start name = none) (f : String → String) (keys : Set String)
    (same : ∀ key ∈ keys, ∀ other ∈ keys, plainKey other = plainKey key ↔ f other = f key)
    (ops : List BackendOp) (known : ∀ op ∈ ops, op.key ∈ keys) :
    (((backend files folder).performAll ops).run start).1 =
      ((Memory.backend.performAll (ops.map (·.mapKey f))).run Memory.empty).1 := by
  have mirrors : Mirrors f keys (contents start) Memory.empty := fun key _ => empty (file key)
  obtain ⟨answers, after, later, here, there⟩ := performAll_mirrors works same ops known mirrors
  rw [here, there]

theorem memory_set_get (key other text : String) :
    ((Memory.backend.performAll [.set key text, .get other]).run Memory.empty).1 =
      [.done (.ok ()), .found (.ok (if other = key then some text else none))] := by
  have found : (Memory.empty.insert key text).get? other =
      if other = key then some text else none := by
    by_cases same : other = key
    · rw [if_pos same, same, Memory.get?_insert_same]
    · rw [if_neg same, Memory.get?_insert_other _ text same]
      rfl
  rw [← found]
  rfl

theorem get_perform_other (works : BehavesAsMap files folder contents) (op : BackendOp)
    {other : String} (apart : plainKey op.key ≠ plainKey other) (state : σ) :
    ((get files folder other).run (((backend files folder).perform op).run state).2).1 =
      ((get files folder other).run state).1 := by
  have distinct : file other ≠ file op.key := fun same =>
    apart ((file_eq_iff op.key other).1 same.symm)
  have unchanged : contents (((backend files folder).perform op).run state).2 (file other) =
      contents state (file other) := by
    cases op with
    | get key =>
        obtain ⟨after, got, same⟩ := works.get_run key state
        rw [Backend.perform, StateT.run_map, backend, got]
        exact congrFun same (file other)
    | set key text =>
        obtain ⟨after, done, changed⟩ := works.set_run key text state
        rw [Backend.perform, StateT.run_map, backend, done]
        refine (changed _ (temporary_ne_file key other).symm).trans (if_neg distinct)
    | remove key =>
        obtain ⟨after, done, changed⟩ := works.remove_run key state
        rw [Backend.perform, StateT.run_map, backend, done]
        exact (congrFun changed _).trans (Function.update_of_ne distinct _ _)
  obtain ⟨before, asked, -⟩ := works.get_run other state
  obtain ⟨after, again, -⟩ :=
    works.get_run other (((backend files folder).perform op).run state).2
  rw [asked, again, unchanged]

/-- A folder without faults answers every series of calls as a memory that is asked for the plain
keys.  So it answers as a memory for the keys of a set exactly if no two of them have the same
plain key, and a call for one key leaves those with other plain keys as they were. -/
theorem answers_as_memory_iff (files : FileAccess (StateM σ)) (folder : String)
    (contents : σ → Name → Option (List UInt8)) (works : BehavesAsMap files folder contents)
    (start : σ) (empty : ∀ name, contents start name = none) :
    let answers := fun ops => (((backend files folder).performAll ops).run start).1
    let remembered := fun ops => ((Memory.backend.performAll ops).run Memory.empty).1
    (∀ ops : List BackendOp, answers ops = remembered (ops.map (·.mapKey plainKey))) ∧
      (∀ keys : Set String,
        (∀ ops : List BackendOp, (∀ op ∈ ops, op.key ∈ keys) → answers ops = remembered ops) ↔
          Set.InjOn plainKey keys) ∧
      ∀ state (op : BackendOp) other, plainKey op.key ≠ plainKey other →
        ((get files folder other).run (((backend files folder).perform op).run state).2).1 =
          ((get files folder other).run state).1 := by
  intro answers remembered
  have plain : ∀ ops : List BackendOp, answers ops = remembered (ops.map (·.mapKey plainKey)) :=
    fun ops => answers_eq works start empty plainKey Set.univ (fun _ _ _ _ => Iff.rfl) ops
      fun _ _ => Set.mem_univ _
  refine ⟨plain, fun keys => ⟨fun agree => ?_, fun distinct ops known => ?_⟩,
    fun state op other apart => get_perform_other works op apart state⟩
  · intro key known other otherKnown shared
    by_contra apart
    -- Setting the one and asking for the other tells the two apart.
    have told := agree [.set key "", .get other] fun op member => by
      rcases List.mem_pair.1 member with rfl | rfl
      · exact known
      · exact otherKnown
    rw [plain] at told
    have folderTold := memory_set_get (plainKey key) (plainKey other) ""
    have memoryTold := memory_set_get key other ""
    rw [if_pos shared.symm] at folderTold
    rw [if_neg (Ne.symm apart)] at memoryTold
    have equal := folderTold.symm.trans (told.trans memoryTold)
    simp at equal
  · have same : ∀ key ∈ keys, ∀ other ∈ keys, plainKey other = plainKey key ↔ id other = id key :=
      fun key known other otherKnown => distinct.eq_iff otherKnown known
    have told := answers_eq works start empty id keys same ops known
    rwa [BackendOp.map_mapKey_id] at told

/-! ## Files by their paths -/

def flatFiles : FileAccess (StateM (String → Option (List UInt8))) where
  kind path := fun held => ((held path).map fun _ => .file, held)
  read path := fun held => ((held path).elim (.error .notFound) .ok, held)
  write path bytes := fun held => (.ok (), Function.update held path (some bytes))
  rename source target := fun held => (held source).elim (.error .notFound, held)
    fun bytes => (.ok (), Function.update (Function.update held source none) target (some bytes))
  remove path := fun held => (held path).elim (.error .notFound, held)
    fun _ => (.ok (), Function.update held path none)
  makeFolders _ := fun held => (.ok (), held)

theorem flatFiles_rename (source target : String) (held : String → Option (List UInt8)) :
    (flatFiles.rename source target).run held = (held source).elim (.error .notFound, held)
      fun bytes =>
        (.ok (), Function.update (Function.update held source none) target (some bytes)) :=
  rfl

theorem flatFiles_remove (place : String) (held : String → Option (List UInt8)) :
    (flatFiles.remove place).run held = (held place).elim (.error .notFound, held)
      fun _ => (.ok (), Function.update held place none) :=
  rfl

theorem path_injective {name other : Name} (same : path folder name.1 = path folder other.1) :
    name = other := by
  have steps := congrArg FileTree.steps same
  rw [steps_path folder name.2, steps_path folder other.2] at steps
  exact Subtype.ext (List.head_eq_of_cons_eq (List.append_cancel_left steps))

theorem update_path (held : String → Option (List UInt8)) (name : Name)
    (value : Option (List UInt8)) :
    (fun other : Name => Function.update held (path folder name.1) value (path folder other.1)) =
      Function.update (fun other : Name => held (path folder other.1)) name value := by
  funext other
  by_cases same : other = name
  · rw [same, Function.update_self, Function.update_self]
  · rw [Function.update_of_ne same, Function.update_of_ne fun equal => same (path_injective equal)]

theorem flatFiles_behavesAsMap (folder : String) :
    BehavesAsMap flatFiles folder fun held name => held (path folder name.1) where
  read name held := ⟨held, rfl, rfl⟩
  write name bytes held := ⟨_, rfl, update_path held name (some bytes)⟩
  rename := by
    intro source target bytes held present
    refine ⟨Function.update (Function.update held (path folder source.1) none)
      (path folder target.1) (some bytes), ?_, ?_⟩
    · rw [flatFiles_rename, present]
      rfl
    · rw [update_path, update_path]
  remove := by
    intro name held
    refine ⟨Function.update held (path folder name.1) none, ?_, update_path held name none⟩
    rw [flatFiles_remove]
    cases present : held (path folder name.1) with
    | none =>
        have unchanged : Function.update held (path folder name.1) none = held := by
          rw [← present, Function.update_eq_self]
        rw [unchanged]
        rfl
    | some bytes => rfl

theorem answers_as_memory_iff_sample :
    (((backend flatFiles "cache").performAll [.set "a" "x", .get "b", .remove "b", .get "a"]).run
      fun _ => none).1 =
        [.done (.ok ()), .found (.ok none), .done (.ok ()), .found (.ok (some "x"))] := by
  have distinct : Set.InjOn plainKey {"a", "b"} := by
    have apart : plainKey "a" ≠ plainKey "b" := by decide
    rintro key (rfl | rfl) other (rfl | rfl) same
    · rfl
    · exact absurd same apart
    · exact absurd same.symm apart
    · rfl
  have told := ((answers_as_memory_iff flatFiles "cache" _ (flatFiles_behavesAsMap "cache")
    (fun _ => none) fun _ => rfl).2.1 {"a", "b"}).2 distinct
    [.set "a" "x", .get "b", .remove "b", .get "a"] (by simp [BackendOp.key])
  exact told.trans (by rfl)

/-- Setting one key sets another one, although nothing fails and a memory keeps the two apart. -/
theorem keys_share_a_file :
    BehavesAsMap flatFiles "cache" (fun held name => held (path "cache" name.1)) ∧
      (((backend flatFiles "cache").performAll [.set "a/b" "x", .get "a_b"]).run fun _ => none).1 =
        [.done (.ok ()), .found (.ok (some "x"))] ∧
      ((Memory.backend.performAll [.set "a/b" "x", .get "a_b"]).run Memory.empty).1 =
        [.done (.ok ()), .found (.ok none)] := by
  have shared : plainKey "a_b" = plainKey "a/b" := by decide
  have told := answers_eq (flatFiles_behavesAsMap "cache") (fun _ => none) (fun _ => rfl)
    plainKey Set.univ (fun _ _ _ _ => Iff.rfl) [.set "a/b" "x", .get "a_b"]
    fun _ _ => Set.mem_univ _
  have found := memory_set_get (plainKey "a/b") (plainKey "a_b") "x"
  rw [if_pos shared] at found
  have apart := memory_set_get "a/b" "a_b" "x"
  rw [if_neg (by decide : "a_b" ≠ "a/b")] at apart
  exact ⟨flatFiles_behavesAsMap "cache", told.trans found, apart⟩

end Folder

end HolderBond
