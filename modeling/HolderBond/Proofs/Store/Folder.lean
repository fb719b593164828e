import HolderBond.Proofs.Store.FileNames
import HolderBond.Proofs.Text.Utf8
import Mathlib.Logic.Function.Basic

/-!
# Keys in a folder

A folder is seen here only through what is read under each of its names.  Writing under a name may
fail half way and moving may fail as well, so what a failed call leaves is part of the view.
-/

set_option autoImplicit false

namespace HolderBond

theorem run_bind_eq {σ α β : Type} {call : StateM σ α} {next : α → StateM σ β} {state after : σ}
    {answer : α} (ran : call.run state = (answer, after)) :
    (call >>= next).run state = (next answer).run after := by
  rw [StateT.run_bind, ran]
  rfl

namespace Folder

variable {σ : Type} {files : FileAccess (StateM σ)} {folder : String}

abbrev Name := { name : String // IsFileName name }

def file (key : String) : Name :=
  ⟨fileName key, isFileName_fileName key⟩

def temporary (key : String) : Name :=
  ⟨temporaryName key, isFileName_temporaryName key⟩

theorem temporary_ne_file (key other : String) : temporary key ≠ file other := fun same =>
  temporaryName_ne_fileName key other (congrArg Subtype.val same)

theorem file_eq_iff (key other : String) :
    file key = file other ↔ plainKey key = plainKey other := by
  rw [← fileName_eq_iff, file, file, Subtype.mk.injEq]

/-- Access to a folder in which writing and moving may fail: a write that fails leaves anything
under its own name, a move that fails changes nothing. -/
structure Serves (files : FileAccess (StateM σ)) (folder : String)
    (contents : σ → Name → Except FileFault (List UInt8)) : Prop where
  read : ∀ name state, ∃ after, (files.read (path folder name.1)).run state =
    (contents state name, after) ∧ contents after = contents state
  write : ∀ name bytes state, ∃ answer after,
    (files.write (path folder name.1) bytes).run state = (answer, after) ∧
      (answer = .ok () → contents after name = .ok bytes) ∧
      ∀ other, other ≠ name → contents after other = contents state other
  rename : ∀ source target bytes state, source ≠ target → contents state source = .ok bytes →
    ∃ answer after,
      (files.rename (path folder source.1) (path folder target.1)).run state = (answer, after) ∧
        match answer with
        | .ok () => contents after = Function.update
            (Function.update (contents state) source (.error .notFound)) target (.ok bytes)
        | .error _ => contents after = contents state

def answerOf : Except FileFault (List UInt8) → Except StoreError (Option String)
  | .ok bytes =>
      match Text.ofUtf8? bytes with
      | some text => .ok (some text)
      | none => .error (.file .notText)
  | .error .notFound => .ok none
  | .error fault => .error (.file fault)

theorem answerOf_utf8 (text : String) : answerOf (.ok (Text.utf8 text)) = .ok (some text) := by
  rw [answerOf, Text.ofUtf8?_utf8]

theorem get_run {contents : Except FileFault (List UInt8)} {state after : σ} {key : String}
    (read : (files.read (path folder (fileName key))).run state = (contents, after)) :
    (get files folder key).run state = (answerOf contents, after) := by
  have text : (files.readText (path folder (fileName key))).run state =
      (contents.bind fun bytes => (Text.ofUtf8? bytes).elim (.error .notText) .ok, after) := by
    rw [FileAccess.readText, run_bind_eq read]
    cases contents with
    | error fault => rfl
    | ok bytes =>
        dsimp only [Except.bind]
        cases Text.ofUtf8? bytes <;> rfl
  rw [get, run_bind_eq text]
  cases contents with
  | error fault => cases fault <;> rfl
  | ok bytes =>
      dsimp only [Except.bind, answerOf]
      cases Text.ofUtf8? bytes <;> rfl

section Serving

variable {contents : σ → Name → Except FileFault (List UInt8)}

theorem Serves.get_eq (serves : Serves files folder contents) (key : String) (state : σ) :
    ((get files folder key).run state).1 = answerOf (contents state (file key)) := by
  obtain ⟨after, read, -⟩ := serves.read (file key) state
  rw [get_run read]

/-- Setting a key writes its temporary name and moves that over its file.  Until the move is made,
nothing but the temporary name has changed. -/
theorem Serves.set_run (serves : Serves files folder contents) (key text : String) (state : σ) :
    ∃ answer after, (set files folder key text).run state = (answer, after) ∧
      (∀ fault, answer = .error fault → ∀ name, name ≠ temporary key →
        contents after name = contents state name) ∧
      (answer = .ok () → contents after (file key) = .ok (Text.utf8 text) ∧
        ∀ name, name ≠ temporary key → name ≠ file key →
          contents after name = contents state name) := by
  have distinct := temporary_ne_file key key
  obtain ⟨written, middle, writes, holds, others⟩ :=
    serves.write (temporary key) (Text.utf8 text) state
  have writes : (files.writeText (path folder (temporaryName key)) text).run state =
      (written, middle) := writes
  rw [set, run_bind_eq writes]
  cases written with
  | error fault =>
      exact ⟨.error (.file fault), middle, rfl, fun _ _ => others, fun done => by cases done⟩
  | ok =>
      obtain ⟨moved, after, renames, changed⟩ :=
        serves.rename (temporary key) (file key) (Text.utf8 text) middle distinct (holds rfl)
      have moving : (files.rename (path folder (temporaryName key))
          (path folder (fileName key))).run middle = (moved, after) := renames
      refine ⟨moved.mapError .file, after, run_bind_eq moving, ?_⟩
      cases moved with
      | error fault =>
          refine ⟨fun _ _ name other => ?_, fun done => by cases done⟩
          rw [changed, others name other]
      | ok =>
          refine ⟨fun fault failed => (by cases failed), fun _ => ⟨?_, ?_⟩⟩
          · rw [changed, Function.update_self]
          · intro name other apart
            rw [changed, Function.update_of_ne apart, Function.update_of_ne other,
              others name other]

end Serving

end Folder

end HolderBond
