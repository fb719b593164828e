import HolderBond.Proofs.Json.Levels
import HolderBond.Shape.Basic

/-!
# How deep values are written

A record is one level deeper than the deepest of its fields; texts, numbers and what is written
as one of them have no level of their own.
-/

set_option autoImplicit false

namespace HolderBond

/-- How many levels of arrays and objects a value is written with. -/
def Shape.levels {α : Type} (shape : Shape α) (a : α) : Nat :=
  (shape.write a).levels

def Fields.levels {α : Type} (fields : Fields α) (a : α) : Nat :=
  Json.membersLevels (fields.write a)

namespace Shape

variable {α β : Type}

@[simp] theorem levels_value (v : FreeForm) : value.levels v = v.tree.levels :=
  rfl

@[simp] theorem levels_text (s : String) : text.levels s = 0 :=
  rfl

@[simp] theorem levels_flag (b : Bool) : flag.levels b = 0 :=
  rfl

@[simp] theorem levels_natural (u : Unsigned α) (a : α) : (natural u).levels a = 0 :=
  rfl

@[simp] theorem levels_written (t : TextForm α) (a : α) : (written t).levels a = 0 :=
  rfl

theorem levels_optional_none (inner : Shape α) : (optional inner).levels none = 0 :=
  rfl

theorem levels_optional_some (inner : Shape α) (a : α) :
    (optional inner).levels (some a) = inner.levels a :=
  rfl

theorem levels_optional_le {inner : Shape α} {most : Nat} (small : ∀ a, inner.levels a ≤ most)
    (a : Option α) : (optional inner).levels a ≤ most := by
  cases a with
  | none =>
      rw [levels_optional_none]
      exact Nat.zero_le most
  | some a =>
      rw [levels_optional_some]
      exact small a

theorem levels_optional_zero {inner : Shape α} (flat : ∀ a, inner.levels a = 0) (a : Option α) :
    (optional inner).levels a = 0 :=
  Nat.le_zero.1 (levels_optional_le (fun a => Nat.le_of_eq (flat a)) a)

@[simp] theorem levels_optional_text (a : Option String) : (optional text).levels a = 0 :=
  levels_optional_zero levels_text a

@[simp] theorem levels_optional_flag (a : Option Bool) : (optional flag).levels a = 0 :=
  levels_optional_zero levels_flag a

@[simp] theorem levels_optional_natural (u : Unsigned α) (a : Option α) :
    (optional (natural u)).levels a = 0 :=
  levels_optional_zero (levels_natural u) a

@[simp] theorem levels_members (ms : Members) :
    members.levels ms = Json.membersLevels ms.entries + 1 :=
  rfl

@[simp] theorem levels_record (name : String) (positional : Bool) (fields : Fields α) (a : α) :
    (record name positional fields).levels a = fields.levels a + 1 :=
  rfl

theorem levels_extended_pos (name : String) (fields : Fields α) (a : α × Members) :
    0 < (extended name fields).levels a :=
  Nat.succ_pos _

@[simp] theorem levels_via (inner : Shape α) (c : Correspondence α β) (b : β) :
    (via inner c).levels b = inner.levels (c.view b) :=
  rfl

end Shape

namespace Fields

variable {α β : Type} (key : String) (shape : Shape α) (rest : Fields β)

theorem levels_cons (presence : Presence α) (a : α × β) :
    (cons key presence shape rest).levels a =
      max (if presence.leavesOut a.1 then 0 else shape.levels a.1) (rest.levels a.2) := by
  rw [levels, levels, write, Shape.levels]
  cases presence.leavesOut a.1 with
  | true => simp
  | false => simp [Json.membersLevels]

@[simp] theorem levels_nil (a : Unit) : nil.levels a = 0 :=
  rfl

@[simp] theorem levels_field (a : α × β) :
    (field key shape rest).levels a = max (shape.levels a.1) (rest.levels a.2) := by
  rw [field, levels_cons]
  rfl

@[simp] theorem levels_fieldOr (default : α) (a : α × β) :
    (fieldOr key default shape rest).levels a = max (shape.levels a.1) (rest.levels a.2) := by
  rw [fieldOr, levels_cons]
  rfl

@[simp] theorem levels_optional (a : Option α × β) :
    (optional key shape rest).levels a =
      max ((Shape.optional shape).levels a.1) (rest.levels a.2) := by
  rw [optional, levels_cons]
  obtain ⟨a, b⟩ := a
  cases a with
  | none => rw [Shape.levels_optional_none]; rfl
  | some a => rfl

end Fields

end HolderBond
