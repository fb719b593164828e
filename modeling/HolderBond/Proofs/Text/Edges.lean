import HolderBond.Text.Blank
import Mathlib.Data.List.TakeWhile

/-!
# The edges of texts

Dropping or taking members at an end of a list stops at the first member that does not qualify,
so what stands behind such a member is out of its reach.
-/

set_option autoImplicit false

namespace HolderBond.Text

variable {α : Type} {p : α → Bool}

theorem takeWhile_stop {c : α} (stop : p c = false) (xs tail : List α) :
    (xs ++ c :: tail).takeWhile p = xs.takeWhile p := by
  induction xs with
  | nil => simp [stop]
  | cons x xs ih =>
      rw [List.cons_append, List.takeWhile_cons, List.takeWhile_cons, ih]

theorem dropWhile_stop {c : α} (stop : p c = false) (xs tail : List α) :
    (xs ++ c :: tail).dropWhile p = xs.dropWhile p ++ c :: tail := by
  induction xs with
  | nil => simp [stop]
  | cons x xs ih =>
      rw [List.cons_append, List.dropWhile_cons, List.dropWhile_cons, ih]
      split <;> rfl

/-- What is dropped next does not depend on what was dropped before, if it stops at a member
that was not to be dropped before either. -/
theorem dropWhile_dropWhile_of_head {q : α → Bool} {xs : List α}
    (head : ∀ x, (xs.dropWhile q).head? = some x → p x = false) :
    (xs.dropWhile p).dropWhile q = xs.dropWhile q := by
  induction xs with
  | nil => rfl
  | cons x xs ih =>
      by_cases next : q x = true
      · rw [List.dropWhile_cons_of_pos next] at head ⊢
        by_cases first : p x = true
        · rw [List.dropWhile_cons_of_pos first]
          exact ih head
        · rw [List.dropWhile_cons_of_neg first, List.dropWhile_cons_of_pos next]
      · rw [List.dropWhile_cons_of_neg next] at head ⊢
        have first := head x rfl
        rw [List.dropWhile_cons_of_neg (by simp [first]), List.dropWhile_cons_of_neg next]

theorem dropTrailing_cons_stop {c : α} (stop : p c = false) (xs tail : List α) :
    dropTrailing p (xs ++ c :: tail) = xs ++ c :: dropTrailing p tail := by
  have backwards : (xs ++ c :: tail).reverse = tail.reverse ++ c :: xs.reverse := by simp
  rw [dropTrailing, backwards, dropWhile_stop stop]
  simp [dropTrailing]

theorem dropTrailing_append_of_all {tail : List α} (all : ∀ x ∈ tail, p x = true) (xs : List α) :
    dropTrailing p (xs ++ tail) = dropTrailing p xs := by
  have dropped : tail.reverse.dropWhile p = [] :=
    List.dropWhile_eq_nil_iff.2 fun x member => all x (List.mem_reverse.1 member)
  rw [dropTrailing, dropTrailing, List.reverse_append, List.dropWhile_append, dropped]
  rfl

/-- Deciding the right side itself might go through all the characters there are. -/
theorem forall_mem_of_all {cs : List Char} {property : Char → Prop} [DecidablePred property]
    (all : cs.all (fun c => decide (property c)) = true) : ∀ c ∈ cs, property c := by
  intro c member
  exact of_decide_eq_true (List.all_eq_true.1 all c member)

theorem trimChars_blanks {before after : List Char} (blankBefore : ∀ c ∈ before, isBlank c = true)
    (blankAfter : ∀ c ∈ after, isBlank c = true) (cs : List Char) :
    trimChars (before ++ cs ++ after) = trimChars cs := by
  have front : (before ++ (cs ++ after)).dropWhile isBlank = (cs ++ after).dropWhile isBlank := by
    rw [List.dropWhile_append, List.dropWhile_eq_nil_iff.2 blankBefore]
    rfl
  rw [trimChars, trimChars, List.append_assoc, front, List.dropWhile_append]
  split
  · next allBlank =>
      rw [List.dropWhile_eq_nil_iff.2 blankAfter, List.isEmpty_iff.1 allBlank]
  · exact dropTrailing_append_of_all blankAfter _

end HolderBond.Text
