import HolderBond.Disk.Tree
import HolderBond.Proofs.Text.Edges
import HolderBond.Proofs.Text.Pieces
import HolderBond.Store.Folder

/-!
# Names of files in a folder

Whatever the key, the two names that a folder uses for it are plain words with dots, so that they
lead to something directly in the folder and nowhere else.  The temporary name of a key is not
the name of the file of any key.
-/

set_option autoImplicit false

namespace HolderBond.Folder

/-! ## Plain keys -/

theorem isPlain_replaced (c : Char) : isPlain (if isPlain c then c else '_') = true := by
  by_cases plain : isPlain c = true
  · rw [if_pos plain, plain]
  · rw [if_neg plain]
    decide

theorem isPlain_of_mem_plainKey {key : String} {c : Char} (member : c ∈ (plainKey key).toList) :
    isPlain c = true := by
  rw [plainKey, String.toList_ofList] at member
  obtain ⟨d, -, rfl⟩ := List.mem_map.1 member
  exact isPlain_replaced d

/-! ## Names -/

/-- A name of letters, digits, dashes, underscores and dots that is neither of the two marks for
places that exist already. -/
structure IsFileName (name : String) : Prop where
  symbols : ∀ c ∈ name.toList, c.isAlphanum = true ∨ c = '-' ∨ c = '_' ∨ c = '.'
  notEmpty : name ≠ ""
  notHere : name ≠ "."
  notAbove : name ≠ ".."

theorem isFileName_of_ending {front ending : String}
    (plain : ∀ c ∈ front.toList, isPlain c = true ∨ c = '.')
    (symbols : ∀ c ∈ ending.toList, isPlain c = true ∨ c = '.') (long : 2 < ending.toList.length) :
    IsFileName (front ++ ending) := by
  have length : 2 < (front ++ ending).toList.length := by
    rw [String.toList_append, List.length_append]
    omega
  have short : ∀ other : String, other.toList.length ≤ 2 → front ++ ending ≠ other := by
    rintro other few rfl
    omega
  refine ⟨fun c member => ?_, short "" (by decide), short "." (by decide), short ".." (by decide)⟩
  have known : isPlain c = true ∨ c = '.' := by
    rw [String.toList_append, List.mem_append] at member
    exact member.elim (plain c) (symbols c)
  simpa [isPlain, or_assoc] using known

theorem isFileName_fileName (key : String) : IsFileName (fileName key) :=
  isFileName_of_ending (fun _ member => .inl (isPlain_of_mem_plainKey member))
    (Text.forall_mem_of_all (by decide)) (by decide)

theorem isFileName_temporaryName (key : String) : IsFileName (temporaryName key) := by
  rw [temporaryName]
  split
  · have front : ∀ c ∈ ".json".toList, isPlain c = true ∨ c = '.' :=
      Text.forall_mem_of_all (by decide)
    have ending : ∀ c ∈ ".json.tmp".toList, isPlain c = true ∨ c = '.' :=
      Text.forall_mem_of_all (by decide)
    exact isFileName_of_ending front ending (by decide)
  · exact isFileName_of_ending (fun _ member => .inl (isPlain_of_mem_plainKey member))
      (Text.forall_mem_of_all (by decide)) (by decide)

theorem getLast?_fileName (key : String) : (fileName key).toList.getLast? = some 'n' := by
  rw [fileName, String.toList_append, List.getLast?_append]
  rfl

theorem getLast?_temporaryName (key : String) :
    (temporaryName key).toList.getLast? = some 'p' := by
  rw [temporaryName]
  split
  · rfl
  · rw [String.toList_append, List.getLast?_append]
    rfl

/-- What is written on the way is never taken for what was written. -/
theorem temporaryName_ne_fileName (key other : String) : temporaryName key ≠ fileName other := by
  intro same
  have last := getLast?_temporaryName key
  rw [same, getLast?_fileName] at last
  exact absurd last (by decide)

/-- Two keys share a file exactly if they read the same once the other characters are replaced. -/
theorem fileName_eq_iff (key other : String) :
    fileName key = fileName other ↔ plainKey key = plainKey other := by
  refine ⟨fun same => ?_, fun same => by rw [fileName, fileName, same]⟩
  have letters := congrArg String.toList same
  rw [fileName, fileName, String.toList_append, String.toList_append] at letters
  exact String.toList_inj.1 (List.append_cancel_right letters)

theorem IsFileName.slash_not_mem {name : String} (named : IsFileName name) :
    '/' ∉ name.toList := by
  intro member
  rcases named.symbols '/' member with letter | other
  · exact absurd letter (by decide)
  · exact absurd other (by decide)

/-! ## Paths -/

/-- A path is the name alone, or the name behind a slash behind the folder, which may have had that
slash already. -/
theorem path_cases (folder name : String) :
    (folder = "" ∧ path folder name = name) ∨
      ∃ front, folder ≠ "" ∧ (folder.toList = front ∨ folder.toList = front ++ ['/']) ∧
        (path folder name).toList = front ++ '/' :: name.toList := by
  cases last : folder.toList.getLast? with
  | none =>
      refine .inl ⟨String.toList_inj.1 (List.getLast?_eq_none_iff.1 last), ?_⟩
      simp only [path, last]
  | some c =>
      have present : folder ≠ "" := by
        rintro rfl
        cases last
      obtain ⟨front, shown⟩ := List.getLast?_eq_some_iff.1 last
      refine .inr ?_
      by_cases slash : c = '/'
      · subst slash
        refine ⟨front, present, .inr shown, ?_⟩
        simp [path, shown]
      · refine ⟨folder.toList, present, .inl rfl, ?_⟩
        simp [path, last]

theorem steps_of_toList {path : String} {front : List Char} {name : String}
    (named : IsFileName name) (shown : path.toList = front ++ '/' :: name.toList) :
    FileTree.steps path = FileTree.steps (String.ofList front) ++ [name] := by
  have last : [name].filter (fun piece => !piece.isEmpty && piece != ".") = [name] := by
    simp [named.notEmpty, named.notHere]
  simp only [FileTree.steps, shown, Text.piecesBetween_append,
    Text.piecesBetween_of_absent named.slash_not_mem, List.map_append, List.filter_append,
    List.map_cons, List.map_nil, String.ofList_toList, String.toList_ofList, last]

theorem steps_of_slash (front : List Char) :
    FileTree.steps (String.ofList (front ++ ['/'])) = FileTree.steps (String.ofList front) := by
  simp [FileTree.steps, Text.piecesBetween_append, Text.piecesBetween]

theorem steps_path (folder : String) {name : String} (named : IsFileName name) :
    FileTree.steps (path folder name) = FileTree.steps folder ++ [name] := by
  rcases path_cases folder name with ⟨rfl, alone⟩ | ⟨front, -, same | slash, shown⟩
  · rw [alone, FileTree.steps, Text.piecesBetween_of_absent named.slash_not_mem]
    simp [FileTree.steps, Text.piecesBetween, named.notEmpty, named.notHere]
  · rw [steps_of_toList named shown, ← same, String.ofList_toList]
  · rw [steps_of_toList named shown, ← steps_of_slash, ← slash, String.ofList_toList]

theorem start_path (tree : FileTree) (folder : String) {name : String} (named : IsFileName name) :
    tree.start (path folder name) = tree.start folder := by
  rcases path_cases folder name with ⟨rfl, alone⟩ | ⟨front, present, same | slash, shown⟩
  · have inside : name.toList.head? ≠ some '/' := fun first =>
      named.slash_not_mem (List.mem_of_mem_head? first)
    rw [alone, FileTree.start, if_neg inside, FileTree.start, if_neg (by decide)]
  · cases front with
    | nil => exact absurd (String.toList_inj.1 same) present
    | cons c front => simp [FileTree.start, shown, same]
  · cases front with
    | nil => simp [FileTree.start, shown, slash]
    | cons c front => simp [FileTree.start, shown, slash]

theorem path_ne_empty (folder : String) {name : String} (named : IsFileName name) :
    path folder name ≠ "" := by
  intro empty
  have noSteps : FileTree.steps (path folder name) = [] := by
    rw [empty]
    rfl
  rw [steps_path folder named] at noSteps
  exact absurd noSteps (by simp)

theorem saysFolder_path (folder : String) {name : String} (named : IsFileName name) :
    FileTree.saysFolder (path folder name) = false := by
  have last : (Text.piecesBetween '/' (path folder name).toList).getLast? = some name.toList := by
    rcases path_cases folder name with ⟨-, alone⟩ | ⟨front, -, -, shown⟩
    · rw [alone, Text.piecesBetween_of_absent named.slash_not_mem]
      rfl
    · rw [shown, Text.piecesBetween_append, Text.piecesBetween_of_absent named.slash_not_mem,
        List.getLast?_append]
      rfl
  have notHere : name.toList ≠ ['.'] := fun same => named.notHere (String.toList_inj.1 same)
  simp [FileTree.saysFolder, last, named.notEmpty, notHere]

end HolderBond.Folder
