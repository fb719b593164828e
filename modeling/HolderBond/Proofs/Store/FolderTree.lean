import HolderBond.Proofs.Disk.Places
import HolderBond.Proofs.Store.Folder

/-!
# A folder stays by itself

In a tree of files the names that a folder uses lead to places directly inside it, whatever the
keys.  Setting a key writes to a place that no key is read from, so that a set that fails on its
way is not seen by anyone.
-/

set_option autoImplicit false

namespace HolderBond

namespace FileTree

variable {tree after : FileTree} {folder : String} {above : List String}

structure FolderAt (tree : FileTree) (folder : String) (above : List String) : Prop where
  walked : tree.walk (tree.start folder) (steps folder) = .ok above
  isFolder : tree.node? above = some .folder

abbrev Fits (folder name : String) : Prop :=
  (Text.utf8 (Folder.path folder name)).length ≤ maxPathBytes ∧
    (Text.utf8 name).length ≤ maxNameBytes

theorem resolve_eq_walk {path : String} (present : path ≠ "") (tree : FileTree) :
    tree.resolve path = if (Text.utf8 path).length > maxPathBytes then .error .nameTooLong
      else tree.walk (tree.start path) (steps path) := by
  rw [resolve, if_neg]
  simpa using present

theorem walk_child {name : String} (named : Folder.IsFileName name) (tree : FileTree) :
    tree.walk (tree.start (Folder.path folder name)) (steps (Folder.path folder name)) =
      (tree.walk (tree.start folder) (steps folder)).bind fun there =>
        match tree.node? there with
        | none => .error .notFound
        | some (.file _) => .error .notDirectory
        | some .folder =>
            if (Text.utf8 name).length > maxNameBytes then .error .nameTooLong
            else .ok (there ++ [name]) := by
  rw [Folder.start_path tree folder named, Folder.steps_path folder named, walk_append]
  congr 1
  funext there
  cases held : tree.node? there with
  | none => simp only [walk, held]
  | some node => cases node <;> simp only [walk, held, if_neg named.notAbove]

/-- Wherever such a path leads, it is directly in the folder. -/
theorem folderAt_of_resolve {name : String} (named : Folder.IsFileName name) {place : List String}
    (resolved : tree.resolve (Folder.path folder name) = .ok place) :
    Fits folder name ∧ ∃ above, FolderAt tree folder above ∧ place = above ++ [name] := by
  rw [resolve_eq_walk (Folder.path_ne_empty folder named), walk_child named] at resolved
  split at resolved
  · cases resolved
  · next short =>
      cases walked : tree.walk (tree.start folder) (steps folder) with
      | error fault => simp [walked, Except.bind] at resolved
      | ok there =>
          rw [walked] at resolved
          dsimp only [Except.bind] at resolved
          cases found : tree.node? there with
          | none => simp [found] at resolved
          | some node =>
              cases node with
              | file bytes => simp [found] at resolved
              | folder =>
                  rw [found] at resolved
                  dsimp only at resolved
                  split at resolved
                  · cases resolved
                  · next few =>
                      cases resolved
                      exact ⟨⟨Nat.not_lt.1 short, Nat.not_lt.1 few⟩, there, ⟨walked, found⟩, rfl⟩

theorem FolderAt.resolve {name : String} (named : Folder.IsFileName name)
    (there : FolderAt tree folder above) :
    tree.resolve (Folder.path folder name) =
      if Fits folder name then .ok (above ++ [name]) else .error .nameTooLong := by
  rw [resolve_eq_walk (Folder.path_ne_empty folder named), walk_child named, there.walked]
  simp only [Except.bind, there.isFolder]
  by_cases long : (Text.utf8 (Folder.path folder name)).length > maxPathBytes
  · rw [if_pos long, if_neg fun fits => Nat.not_lt.2 fits.1 long]
  · rw [if_neg long]
    by_cases wide : (Text.utf8 name).length > maxNameBytes
    · rw [if_pos wide, if_neg fun fits => Nat.not_lt.2 fits.2 wide]
    · rw [if_neg wide, if_pos ⟨Nat.not_lt.1 long, Nat.not_lt.1 wide⟩]

theorem FolderAt.read {name : String} (named : Folder.IsFileName name)
    (there : FolderAt tree folder above) :
    tree.read (Folder.path folder name) =
      if Fits folder name then
        match tree.node? (above ++ [name]) with
        | none => .error .notFound
        | some (.file bytes) => .ok bytes
        | some .folder => .error .isDirectory
      else .error .nameTooLong := by
  rw [FileTree.read, lookUp, there.resolve named]
  split
  · simp only [bind, Except.bind, Folder.saysFolder_path folder named]
    cases tree.node? (above ++ [name]) with
    | none => rfl
    | some node => cases node <;> rfl
  · rfl

/-! ## Changes in a folder -/

theorem FolderAt.put {place : List String} (there : FolderAt tree folder above)
    (noFolder : tree.node? place ≠ some .folder) (node : Node) :
    FolderAt (tree.put place node) folder above :=
  ⟨walk_of_folders (folders_put noFolder node) there.walked,
    folders_put noFolder node above there.isFolder⟩

theorem FolderAt.erase {place : List String} (there : FolderAt tree folder above)
    (noFolder : tree.node? place ≠ some .folder) : FolderAt (tree.erase place) folder above :=
  ⟨walk_of_folders (folders_erase noFolder) there.walked,
    folders_erase noFolder above there.isFolder⟩

theorem FolderAt.read_congr {name : String} (named : Folder.IsFileName name)
    (there : FolderAt tree folder above) (later : FolderAt after folder above)
    (same : after.node? (above ++ [name]) = tree.node? (above ++ [name])) :
    after.read (Folder.path folder name) = tree.read (Folder.path folder name) := by
  rw [there.read named, later.read named, same]

theorem child_inj {name other : String} : above ++ [name] = above ++ [other] ↔ name = other := by
  simp

theorem FolderAt.read_moved {source target : Folder.Name} (there : FolderAt tree folder above)
    (distinct : source ≠ target) (fitsSource : Fits folder source.1)
    (fitsTarget : Fits folder target.1) {bytes : List UInt8}
    (found : tree.node? (above ++ [source.1]) = some (.file bytes))
    (free : tree.node? (above ++ [target.1]) ≠ some .folder) :
    (fun name : Folder.Name => ((tree.erase (above ++ [source.1])).put (above ++ [target.1])
        (.file bytes)).read (Folder.path folder name.1)) =
      Function.update (Function.update (fun name => tree.read (Folder.path folder name.1)) source
        (.error .notFound)) target (.ok bytes) := by
  have apart : above ++ [target.1] ≠ above ++ [source.1] := fun same =>
    distinct (Subtype.ext (child_inj.1 same).symm)
  have middle : FolderAt (tree.erase (above ++ [source.1])) folder above :=
    there.erase (by simp [found])
  have noFolder :
      (tree.erase (above ++ [source.1])).node? (above ++ [target.1]) ≠ some .folder := by
    rw [node?_erase_other tree apart]
    exact free
  have later := middle.put noFolder (.file bytes)
  funext name
  by_cases isTarget : name = target
  · subst isTarget
    rw [Function.update_self, later.read name.2, if_pos fitsTarget, node?_put_same _ (by simp)]
  · have offTarget : above ++ [name.1] ≠ above ++ [target.1] := fun same =>
      isTarget (Subtype.ext (child_inj.1 same))
    rw [Function.update_of_ne isTarget]
    by_cases isSource : name = source
    · subst isSource
      rw [Function.update_self, later.read name.2, if_pos fitsSource, node?_put_other _ offTarget,
        node?_erase_same tree (by simp)]
    · rw [Function.update_of_ne isSource]
      refine there.read_congr name.2 later ?_
      rw [node?_put_other _ offTarget, node?_erase_other]
      exact fun same => isSource (Subtype.ext (child_inj.1 same))

theorem write_eq_ok {name : String} (named : Folder.IsFileName name) {bytes : List UInt8}
    (written : tree.write (Folder.path folder name) bytes = .ok after) :
    ∃ above, FolderAt tree folder above ∧ Fits folder name ∧
      tree.node? (above ++ [name]) ≠ some .folder ∧
      after = tree.put (above ++ [name]) (.file bytes) := by
  rw [write] at written
  cases resolved : tree.resolve (Folder.path folder name) with
  | error fault =>
      rw [resolved] at written
      cases written
  | ok place =>
      obtain ⟨fits, above, there, rfl⟩ := folderAt_of_resolve named resolved
      simp only [resolved, bind, Except.bind, Folder.saysFolder_path folder named] at written
      refine ⟨above, there, fits, ?_⟩
      cases found : tree.node? (above ++ [name]) with
      | none =>
          rw [found] at written
          cases written
          exact ⟨by simp, rfl⟩
      | some node =>
          cases node with
          | folder =>
              rw [found] at written
              cases written
          | file old =>
              rw [found] at written
              cases written
              exact ⟨by simp, rfl⟩

theorem file_of_read {name : String} (named : Folder.IsFileName name) {bytes : List UInt8}
    (read : tree.read (Folder.path folder name) = .ok bytes) :
    ∃ above, FolderAt tree folder above ∧ Fits folder name ∧
      tree.node? (above ++ [name]) = some (.file bytes) ∧
      tree.lookUp (Folder.path folder name) = .ok (above ++ [name], .file bytes) := by
  cases resolved : tree.resolve (Folder.path folder name) with
  | error fault =>
      rw [FileTree.read, lookUp, resolved] at read
      cases read
  | ok place =>
      obtain ⟨fits, above, there, rfl⟩ := folderAt_of_resolve named resolved
      rw [there.read named, if_pos fits] at read
      cases found : tree.node? (above ++ [name]) with
      | none => simp [found] at read
      | some node =>
          cases node with
          | folder => simp [found] at read
          | file old =>
              rw [found] at read
              cases read
              refine ⟨above, there, fits, found, ?_⟩
              rw [lookUp, resolved]
              simp only [bind, Except.bind, found, Folder.saysFolder_path folder named]
              rfl

theorem rename_eq_ok {source target : String} (fromNamed : Folder.IsFileName source)
    (toNamed : Folder.IsFileName target) {bytes : List UInt8}
    (read : tree.read (Folder.path folder source) = .ok bytes)
    (renamed : tree.rename (Folder.path folder source) (Folder.path folder target) = .ok after) :
    ∃ above, FolderAt tree folder above ∧ Fits folder source ∧ Fits folder target ∧
      tree.node? (above ++ [source]) = some (.file bytes) ∧
      tree.node? (above ++ [target]) ≠ some .folder ∧
      after = (tree.erase (above ++ [source])).put (above ++ [target]) (.file bytes) := by
  obtain ⟨above, there, fits, found, looked⟩ := file_of_read fromNamed read
  rw [rename, looked] at renamed
  simp only [bind, Except.bind, there.resolve toNamed] at renamed
  refine ⟨above, there, fits, ?_⟩
  by_cases goes : Fits folder target
  · rw [if_pos goes] at renamed
    refine ⟨goes, found, ?_⟩
    cases goal : tree.node? (above ++ [target]) with
    | none =>
        simp only [goal] at renamed
        cases renamed
        exact ⟨by simp, rfl⟩
    | some node =>
        cases node with
        | folder =>
            simp only [goal] at renamed
            cases renamed
        | file old =>
            simp only [goal] at renamed
            cases renamed
            exact ⟨by simp, rfl⟩
  · rw [if_neg goes] at renamed
    cases renamed

theorem run_change (operation : FileTree → Except FileFault FileTree) (tree : FileTree) :
    (change operation).run tree = match operation tree with
      | .ok changed => (.ok (), changed)
      | .error fault => (.error fault, tree) := by
  show (match operation tree with
    | .ok changed => _
    | .error fault => _ : StateM FileTree _).run tree = _
  cases operation tree <;> rfl

/-- Trees of files serve any of their folders. -/
theorem access_serves (folder : String) :
    Folder.Serves access folder fun tree name => tree.read (Folder.path folder name.1) where
  read name tree := ⟨tree, rfl, rfl⟩
  write := by
    intro name bytes tree
    have run := run_change (fun tree => tree.write (Folder.path folder name.1) bytes) tree
    cases written : tree.write (Folder.path folder name.1) bytes with
    | error fault =>
        simp only [written] at run
        exact ⟨.error fault, tree, run, fun done => (by cases done), fun _ _ => rfl⟩
    | ok after =>
        simp only [written] at run
        obtain ⟨above, there, fits, free, rfl⟩ := write_eq_ok name.2 written
        have later := there.put free (.file bytes)
        refine ⟨.ok (), _, run, fun _ => ?_, fun other distinct => ?_⟩
        · show FileTree.read _ _ = _
          rw [later.read name.2, if_pos fits, node?_put_same _ (by simp)]
        · refine there.read_congr other.2 later (node?_put_other _ ?_ _)
          exact fun same => distinct (Subtype.ext (child_inj.1 same))
  rename := by
    intro source target bytes tree distinct read
    have run := run_change (fun tree => tree.rename (Folder.path folder source.1)
      (Folder.path folder target.1)) tree
    cases renamed : tree.rename (Folder.path folder source.1) (Folder.path folder target.1) with
    | error fault =>
        simp only [renamed] at run
        exact ⟨.error fault, tree, run, rfl⟩
    | ok after =>
        simp only [renamed] at run
        obtain ⟨above, there, fitsSource, fitsTarget, found, free, rfl⟩ :=
          rename_eq_ok source.2 target.2 read renamed
        exact ⟨.ok (), _, run, there.read_moved distinct fitsSource fitsTarget found free⟩

end FileTree

namespace Folder

/-- Both names of a key lead directly into the folder, and no temporary name is read from.  So a
set that fails, at the write or at the move, changes no answer, and one that is done changes only
those of keys that share the file. -/
theorem confined_and_unseen :
    (∀ key name, name = fileName key ∨ name = temporaryName key →
      (∀ c ∈ name.toList, c.isAlphanum = true ∨ c = '-' ∨ c = '_' ∨ c = '.') ∧
        name ≠ "" ∧ name ≠ "." ∧ name ≠ ".." ∧
        ∀ folder, FileTree.steps (path folder name) = FileTree.steps folder ++ [name] ∧
          ∀ (tree : FileTree) place, tree.resolve (path folder name) = .ok place →
            ∃ above, tree.FolderAt folder above ∧ place = above ++ [name]) ∧
    (∀ key other, temporaryName key ≠ fileName other) ∧
    ∀ {σ : Type} (files : FileAccess (StateM σ)) (folder : String)
      (contents : σ → Name → Except FileFault (List UInt8)), Serves files folder contents →
      ∀ (key text : String) (state : σ),
        let call := (set files folder key text).run state
        (∀ fault, call.1 = .error fault → ∀ other,
          ((get files folder other).run call.2).1 = ((get files folder other).run state).1) ∧
        (call.1 = .ok () → ((get files folder key).run call.2).1 = .ok (some text) ∧
          ∀ other, fileName other ≠ fileName key →
            ((get files folder other).run call.2).1 = ((get files folder other).run state).1) := by
  refine ⟨fun key name either => ?_, temporaryName_ne_fileName, ?_⟩
  · have named : IsFileName name := by
      rcases either with rfl | rfl
      · exact isFileName_fileName key
      · exact isFileName_temporaryName key
    refine ⟨named.symbols, named.notEmpty, named.notHere, named.notAbove, fun folder =>
      ⟨steps_path folder named, fun tree place resolved => ?_⟩⟩
    exact (FileTree.folderAt_of_resolve named resolved).2
  · intro σ files folder contents serves key text state call
    obtain ⟨answer, after, run, failed, done⟩ := serves.set_run key text state
    have call_eq : call = (answer, after) := run
    simp only [call_eq, serves.get_eq]
    refine ⟨fun fault isFault other => ?_, fun isDone => ⟨?_, fun other apart => ?_⟩⟩
    · rw [failed fault isFault (file other) (temporary_ne_file key other).symm]
    · rw [(done isDone).1, answerOf_utf8]
    · rw [(done isDone).2 (file other) (temporary_ne_file key other).symm]
      exact fun same => apart (congrArg Subtype.val same)

/-- A folder with a file in it, and a folder where the file of another key would be. -/
def obstructed : FileTree where
  nodes := [(["cache"], .folder), (["cache", "a.json"], .folder),
    (["cache", "b.json"], .file (Text.utf8 "kept"))]
  current := []

theorem confined_and_unseen_sample :
    let call := (set FileTree.access "cache" "a" "new").run obstructed
    call.1 = .error (.file .isDirectory) ∧
      call.2.node? ["cache", "a.json.tmp"] = some (.file (Text.utf8 "new")) ∧
      ((get FileTree.access "cache" "b").run call.2).1 = .ok (some "kept") := by
  intro call
  have failed : call.1 = .error (.file .isDirectory) := by rfl
  refine ⟨failed, by rfl, ?_⟩
  have unseen := (confined_and_unseen.2.2 FileTree.access "cache" _
    (FileTree.access_serves "cache") "a" "new" obstructed).1 _ failed "b"
  exact unseen.trans (by rfl)

end Folder

end HolderBond
