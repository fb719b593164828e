import HolderBond.Proofs.Json.Printed
import HolderBond.Proofs.Shape.Outcome

/-!
# Documents are read back

The text of a tree within the levels of a document is read as what becomes of the tree.  So a
value is read back from its compact text, from its spread-out text and from the bytes of either,
if its tree is settled.  Whatever a document is read as is within the levels.
-/

set_option autoImplicit false

namespace HolderBond

/-- The text of a tree is read as what becomes of the tree, if the tree is not too deep. -/
theorem Json.read_render_iff {tree other : Json} :
    Json.read tree.render = .ok other ↔
      tree.reread? = some other ∧ tree.levels ≤ maxLevels := by
  rw [Json.read, Scan.run_eq_ok]
  constructor
  · rintro ⟨left, read, -⟩
    have small := Scan.levels_le_of_on_value maxLevels read
    rw [render, glyphs_ofList, ← List.append_nil (Scan.letters _)] at read
    obtain ⟨back, -⟩ := reread?_of_on_value tree maxLevels endsNumber_nil read
    rw [← levels_of_reread? tree back]
    exact ⟨back, small⟩
  · rintro ⟨back, small⟩
    exact ⟨[], on_value_render back small, rfl⟩

theorem Json.read_render {tree : Json} (settled : tree.Settled) (small : tree.levels ≤ maxLevels) :
    Json.read tree.render = .ok tree :=
  Json.read_render_iff.2 ⟨settled, small⟩

theorem FreeForm.read_render {tree : Json} (settled : tree.Settled)
    (small : tree.levels ≤ Json.maxLevels) :
    FreeForm.read tree.render = .ok (.ofTree tree) := by
  rw [FreeForm.read, Json.read_render settled small]
  rfl

namespace Shape

open HolderBond.Json (Input maxLevels)
open Json.Scan

variable {α : Type} {shape : Shape α} {a : α} {input rest : Input} {tree : Json}
  {document : String}

/-- A document is read as what is made of its tree. -/
theorem readGlyphs_eq_ok_iff (written : (Json.Scan.value maxLevels).on input = some (tree, rest))
    (ended : bare rest = []) : shape.readGlyphs input = .ok a ↔ shape.ofTree tree = .ok a := by
  have follows := shape.scan_follows maxLevels input rest tree written
  rw [readGlyphs, run_eq_ok, follows]
  simp only [given_eq_some]
  constructor
  · rintro ⟨_, ⟨made, -⟩, -⟩
    exact made
  · intro made
    exact ⟨rest, ⟨made, rfl⟩, ended⟩

theorem readGlyphs_of_value (written : (Json.Scan.value maxLevels).on input = some (tree, []))
    (made : shape.ofTree tree = .ok a) : shape.readGlyphs input = .ok a :=
  (readGlyphs_eq_ok_iff written rfl).2 made

/-- From the text of a tree is read what is made of the tree that becomes of it. -/
theorem read_tree {other : Json} (back : tree.reread? = some other) (small : tree.levels ≤ maxLevels)
    (made : shape.ofTree other = .ok a) : shape.read tree.render = .ok a :=
  readGlyphs_of_value (Json.on_value_render back small) made

theorem exists_of_accepted (settled : tree.Settled) (small : tree.levels ≤ maxLevels)
    (accepted : ((shape.ofTree tree).toOption.any fun a => (shape.write a).Settled) = true) :
    ∃ a, shape.read tree.render = .ok a ∧ (shape.write a).Settled := by
  cases made : shape.ofTree tree with
  | error e =>
      rw [made] at accepted
      cases accepted
  | ok a =>
      rw [made] at accepted
      exact ⟨a, read_tree settled small made, of_decide_eq_true accepted⟩

theorem read_render (sound : shape.Sound) (within : shape.Within maxLevels a)
    (settled : (shape.write a).Settled) : shape.read (shape.render a) = .ok a :=
  read_tree settled within.2 (shape.ofTree_write sound a within.1)

theorem read_pretty (sound : shape.Sound) (within : shape.Within maxLevels a)
    (settled : (shape.write a).Settled) : shape.read (shape.pretty a) = .ok a :=
  readGlyphs_of_value (Json.on_value_pretty settled within.2)
    (shape.ofTree_write sound a within.1)

theorem readBytes_utf8 (s : String) : shape.readBytes (Text.utf8 s) = shape.read s := by
  rw [readBytes, read, Text.decode_utf8]

/-- Whatever a document is read as is written within its levels. -/
theorem within_of_readGlyphs (sound : shape.Sound) (enough : shape.floor ≤ maxLevels)
    (read : shape.readGlyphs input = .ok a) : shape.Within maxLevels a := by
  obtain ⟨rest, got, -⟩ := run_eq_ok.1 read
  exact shape.scan_within sound enough (Nat.le_refl _) got

theorem read_value_render (sound : shape.Sound) (enough : shape.floor ≤ maxLevels)
    (read : shape.read document = .ok a) (settled : (shape.write a).Settled) :
    FreeForm.read (shape.render a) = .ok (.ofTree (shape.write a)) :=
  FreeForm.read_render settled (within_of_readGlyphs sound enough read).2

end Shape

end HolderBond
