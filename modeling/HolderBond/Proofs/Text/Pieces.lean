import HolderBond.Text.Pieces
import Mathlib.Data.List.Basic

/-!
# Pieces and their separators

A text without a separator is one piece; a separator in the middle splits the pieces of what stands
before it from those of what stands behind it.
-/

set_option autoImplicit false

namespace HolderBond.Text

variable {separator : Char}

theorem piecesBetween_of_absent {cs : List Char} (absent : separator ∉ cs) :
    piecesBetween separator cs = [cs] := by
  induction cs with
  | nil => rfl
  | cons c cs ih =>
      have other : (c == separator) = false := by
        rw [beq_eq_false_iff_ne]
        rintro rfl
        exact absent List.mem_cons_self
      rw [piecesBetween, other, ih fun member => absent (List.mem_cons_of_mem _ member)]
      rfl

theorem piecesBetween_ne_nil (cs : List Char) : piecesBetween separator cs ≠ [] := by
  cases cs with
  | nil => simp [piecesBetween]
  | cons c cs =>
      rw [piecesBetween]
      split
      · simp
      · split <;> simp

theorem piecesBetween_append (before after : List Char) :
    piecesBetween separator (before ++ separator :: after) =
      piecesBetween separator before ++ piecesBetween separator after := by
  induction before with
  | nil => simp [piecesBetween]
  | cons c cs ih =>
      rw [List.cons_append, piecesBetween, piecesBetween, ih]
      split
      · rfl
      · cases pieces : piecesBetween separator cs with
        | nil => exact absurd pieces (piecesBetween_ne_nil cs)
        | cons piece others => rfl

end HolderBond.Text
