import HolderBond.Proofs.Json.Values

/-!
# Levels

A tree that was read has no more levels of arrays and objects than its reader allows, and
sorting its members adds none.
-/

set_option autoImplicit false

namespace HolderBond.Json

open Scan

mutual

def levels : Json → Nat
  | .array xs => itemsLevels xs + 1
  | .object ms => membersLevels ms + 1
  | .null => 0
  | .bool _ => 0
  | .number _ => 0
  | .string _ => 0

def itemsLevels : List Json → Nat
  | [] => 0
  | x :: xs => max x.levels (itemsLevels xs)

def membersLevels : List (String × Json) → Nat
  | [] => 0
  | (_, v) :: ms => max v.levels (membersLevels ms)

end

theorem itemsLevels_le_iff {xs : List Json} {most : Nat} :
    itemsLevels xs ≤ most ↔ ∀ x ∈ xs, x.levels ≤ most := by
  induction xs with
  | nil => simp [itemsLevels]
  | cons x xs ih => rw [itemsLevels, Nat.max_le, ih, List.forall_mem_cons]

theorem membersLevels_le_iff {ms : List (String × Json)} {most : Nat} :
    membersLevels ms ≤ most ↔ ∀ m ∈ ms, m.2.levels ≤ most := by
  induction ms with
  | nil => simp [membersLevels]
  | cons m ms ih => rw [membersLevels, Nat.max_le, ih, List.forall_mem_cons]

/-! ## Sorted members -/

theorem mem_place {key : String} {value : Json} {ms : List (String × Json)}
    {entry : String × Json} (member : entry ∈ place key value ms) :
    entry = (key, value) ∨ entry ∈ ms := by
  induction ms with
  | nil => simpa [place] using member
  | cons m ms ih =>
      obtain ⟨k, v⟩ := m
      simp only [place] at member
      split at member
      · simpa using member
      · split at member
        · exact Or.inr member
        · rcases List.mem_cons.1 member with here | later
          · exact Or.inr (List.mem_cons.2 (Or.inl here))
          · rcases ih later with new | old
            · exact Or.inl new
            · exact Or.inr (List.mem_cons_of_mem _ old)

/-- Sorted members are the members, their values sorted. -/
theorem exists_of_mem_sortMembers {ms : List (String × Json)} {entry : String × Json}
    (member : entry ∈ sortMembers ms) : ∃ v, (entry.1, v) ∈ ms ∧ entry.2 = v.sort := by
  induction ms with
  | nil => cases member
  | cons m ms ih =>
      obtain ⟨k, v⟩ := m
      rw [sortMembers] at member
      rcases mem_place member with rfl | later
      · exact ⟨v, List.mem_cons_self, rfl⟩
      · obtain ⟨w, old, same⟩ := ih later
        exact ⟨w, List.mem_cons_of_mem _ old, same⟩

mutual

theorem levels_sort_le : (j : Json) → j.sort.levels ≤ j.levels
  | .null => Nat.le_refl _
  | .bool _ => Nat.le_refl _
  | .number _ => Nat.le_refl _
  | .string _ => Nat.le_refl _
  | .array xs => Nat.succ_le_succ (itemsLevels_sortItems_le xs)
  | .object ms => Nat.succ_le_succ (membersLevels_sortMembers_le ms)

theorem itemsLevels_sortItems_le : (xs : List Json) → itemsLevels (sortItems xs) ≤ itemsLevels xs
  | [] => Nat.le_refl _
  | x :: xs => by
      have here := levels_sort_le x
      have later := itemsLevels_sortItems_le xs
      simp only [sortItems, itemsLevels]
      omega

theorem membersLevels_sortMembers_le :
    (ms : List (String × Json)) → membersLevels (sortMembers ms) ≤ membersLevels ms
  | [] => Nat.le_refl _
  | (k, v) :: ms => by
      have here := levels_sort_le v
      have later := membersLevels_sortMembers_le ms
      simp only [sortMembers, membersLevels]
      rw [membersLevels_le_iff]
      intro entry member
      rcases mem_place member with rfl | old
      · exact Nat.le_trans here (Nat.le_max_left _ _)
      · exact Nat.le_trans (membersLevels_le_iff.1 later entry old) (Nat.le_max_right _ _)

end

/-! ## Values that were read -/

namespace Scan

variable {α σ : Type} {input rest : Input}

theorem forall_of_on_itemsWithin {item : Scan α} (good : α → Prop)
    (each : ∀ input rest a, item.on input = some (a, rest) → good a)
    {clock : Input} {first : Bool} {xs : List α}
    (read : (itemsWithin item clock first).on input = some (xs, rest)) : ∀ x ∈ xs, good x := by
  induction clock generalizing first input xs with
  | nil => cases read
  | cons g clock ih =>
      cases itemsWithin_step read with
      | ended => simp
      | more goesOn itemRead later =>
          intro y member
          rcases List.mem_cons.1 member with rfl | other
          · exact each _ _ _ itemRead
          · exact ih later y other

/-- What every member keeps is kept by all members. -/
theorem invariant_of_on_membersWithin {member : String → σ → Scan σ} (good : σ → Prop)
    (each : ∀ key state input rest next, good state →
      (member key state).on input = some (next, rest) → good next)
    {clock : Input} {first : Bool} {start final : σ} (holds : good start)
    (read : (membersWithin member clock first start).on input = some (final, rest)) :
    good final := by
  induction clock generalizing first input start with
  | nil => cases read
  | cons g clock ih =>
      cases membersWithin_step read with
      | ended => exact holds
      | more goesOn named memberRead later => exact ih (each _ _ _ _ _ holds memberRead) later

theorem levels_le_of_on_members {item : Scan Json} {most : Nat}
    (each : ∀ input rest v, item.on input = some (v, rest) → v.levels ≤ most)
    {entries : List (String × Json)}
    (read : (members (keep item) []).on input = some (entries, rest)) :
    ∀ entry ∈ entries, entry.2.levels ≤ most := by
  refine invariant_of_on_membersWithin
    (fun seen : List (String × Json) => ∀ entry ∈ seen, entry.2.levels ≤ most) ?_ (by simp) read
  intro key seen input rest next bounded kept
  obtain ⟨body, v, -, valueRead, rfl⟩ := keep_cases kept
  intro entry member
  rcases List.mem_cons.1 member with rfl | old
  · exact each _ _ _ valueRead
  · exact bounded entry old

theorem levels_le_of_on_value (most : Nat) {tree : Json}
    (read : (value most).on input = some (tree, rest)) : tree.levels ≤ most := by
  induction most generalizing input rest tree with
  | zero =>
      have kind := (on_value_iff 0 tree).1 read
      generalize bare input = start at kind
      cases kind with
      | array allowed => cases allowed
      | object allowed => cases allowed
      | _ => exact Nat.le_refl _
  | succ deeper ih =>
      have kind := (on_value_iff (deeper + 1) tree).1 read
      generalize bare input = start at kind
      cases kind with
      | array allowed read =>
          cases allowed
          exact Nat.succ_le_succ (itemsLevels_le_iff.2
            (forall_of_on_itemsWithin (fun x => x.levels ≤ deeper) (fun _ _ _ => ih) read))
      | object allowed read =>
          cases allowed
          refine Nat.succ_le_succ (membersLevels_le_iff.2 fun entry member => ?_)
          exact levels_le_of_on_members (fun _ _ _ => ih) read entry (List.mem_reverse.1 member)
      | _ => exact Nat.zero_le _

end Scan

end HolderBond.Json
