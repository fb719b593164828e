import HolderBond.Disk.Tree
import Mathlib.Data.List.Basic

/-!
# Places in a tree

Where a path leads depends on the folders that it goes through and on nothing else.  A change at a
place that is no folder leaves every walk as it was.
-/

set_option autoImplicit false

namespace HolderBond.FileTree

variable {tree after : FileTree} {place : List String} {node : Node}

/-! ## What stands where -/

theorem find?_filter_key {α β : Type} [BEq α] [LawfulBEq α] (entries : List (α × β)) {key other : α}
    (distinct : other ≠ key) :
    (entries.filter fun entry => entry.1 != key).find? (fun entry => entry.1 == other) =
      entries.find? fun entry => entry.1 == other := by
  rw [List.find?_filter]
  congr 1
  funext entry
  by_cases same : entry.1 = other <;> simp [same, distinct]

theorem node?_put_same (tree : FileTree) (inside : place ≠ []) (node : Node) :
    (tree.put place node).node? place = some node := by
  cases place with
  | nil => exact absurd rfl inside
  | cons name names => simp [node?, put]

theorem node?_put_other (tree : FileTree) {other : List String} (distinct : other ≠ place)
    (node : Node) : (tree.put place node).node? other = tree.node? other := by
  cases other with
  | nil => rfl
  | cons name names =>
      simp only [node?, put, List.find?_cons]
      rw [find?_filter_key _ distinct, beq_eq_false_iff_ne.2 (Ne.symm distinct)]

theorem node?_erase_same (tree : FileTree) (inside : place ≠ []) :
    (tree.erase place).node? place = none := by
  cases place with
  | nil => exact absurd rfl inside
  | cons name names => simp [node?, erase]

theorem node?_erase_other (tree : FileTree) {other : List String} (distinct : other ≠ place) :
    (tree.erase place).node? other = tree.node? other := by
  cases other with
  | nil => rfl
  | cons name names =>
      simp only [node?, erase]
      rw [find?_filter_key _ distinct]

/-! ## Walks -/

theorem walk_append (tree : FileTree) (place : List String) (steps more : List String) :
    tree.walk place (steps ++ more) = (tree.walk place steps).bind fun there =>
      tree.walk there more := by
  induction steps generalizing place with
  | nil => rfl
  | cons step steps ih =>
      simp only [List.cons_append, walk]
      cases tree.node? place with
      | none => rfl
      | some found =>
          cases found with
          | file bytes => rfl
          | folder =>
              dsimp only
              split
              · exact ih _
              · split
                · rfl
                · exact ih _

/-- A walk needs nothing but the folders it goes through. -/
theorem walk_of_folders
    (folders : ∀ place, tree.node? place = some .folder → after.node? place = some .folder)
    {steps there : List String} (walked : tree.walk place steps = .ok there) :
    after.walk place steps = .ok there := by
  induction steps generalizing place with
  | nil => exact walked
  | cons step steps ih =>
      simp only [walk] at walked ⊢
      cases found : tree.node? place with
      | none => simp [found] at walked
      | some node =>
          cases node with
          | file bytes => simp [found] at walked
          | folder =>
              rw [folders place found]
              rw [found] at walked
              dsimp only at walked ⊢
              split at walked
              · next up => rw [if_pos up]; exact ih walked
              · next down =>
                  rw [if_neg down]
                  split at walked
                  · cases walked
                  · next short => rw [if_neg short]; exact ih walked

theorem folders_put (noFolder : tree.node? place ≠ some .folder) (node : Node) :
    ∀ other, tree.node? other = some .folder →
      (tree.put place node).node? other = some .folder := by
  intro other isFolder
  have distinct : other ≠ place := by
    rintro rfl
    exact noFolder isFolder
  rw [node?_put_other tree distinct, isFolder]

theorem folders_erase (noFolder : tree.node? place ≠ some .folder) :
    ∀ other, tree.node? other = some .folder → (tree.erase place).node? other = some .folder := by
  intro other isFolder
  have distinct : other ≠ place := by
    rintro rfl
    exact noFolder isFolder
  rw [node?_erase_other tree distinct, isFolder]

end HolderBond.FileTree
