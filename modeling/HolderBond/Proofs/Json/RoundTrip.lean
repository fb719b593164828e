import HolderBond.Proofs.Json.Settled
import HolderBond.Proofs.Json.Written
import HolderBond.Proofs.Text.Utf8

/-!
# Trees are read back

The compact and the spread-out form differ in where they put space, and in nothing else.  A
reader that drops space reads either, as long as the tree has no more levels than it allows.
-/

set_option autoImplicit false

namespace HolderBond.Json

open Scan

/-! ## Spacing -/

/-- The space that a form puts between its tokens. -/
structure Spacing where
  line : Nat → List Char
  afterColon : List Char
  space_line : ∀ depth, ∀ g ∈ letters (line depth), isSpace g = true
  space_afterColon : ∀ g ∈ letters afterColon, isSpace g = true

namespace Spacing

def compact : Spacing where
  line _ := []
  afterColon := []
  space_line := by simp
  space_afterColon := by simp

def spread : Spacing where
  line := lineBreak
  afterColon := [' ']
  space_line := by
    intro depth g member
    simp only [letters, lineBreak, List.mem_map, List.mem_cons, List.mem_replicate] at member
    obtain ⟨c, rfl | ⟨-, rfl⟩, rfl⟩ := member <;> decide
  space_afterColon := by simp [isSpace]

end Spacing

variable (spacing : Spacing)

mutual

/-- A tree that stands at some depth, with the given space between its tokens. -/
def spaced (depth : Nat) : Json → List Char
  | .array [] => ['[', ']']
  | .array (x :: xs) =>
      '[' :: spacing.line (depth + 1) ++ spaced (depth + 1) x ++ spacedItems depth xs
  | .object [] => ['\x7b', '\x7d']
  | .object ((k, v) :: ms) =>
      '\x7b' :: spacing.line (depth + 1) ++ stringChars k ++ ':' :: spacing.afterColon ++
        spaced (depth + 1) v ++ spacedMembers depth ms
  | .null => ['n', 'u', 'l', 'l']
  | .bool true => ['t', 'r', 'u', 'e']
  | .bool false => ['f', 'a', 'l', 's', 'e']
  | .number n => numberChars n
  | .string s => stringChars s

def spacedItems (depth : Nat) : List Json → List Char
  | [] => spacing.line depth ++ [']']
  | x :: xs => ',' :: spacing.line (depth + 1) ++ spaced (depth + 1) x ++ spacedItems depth xs

def spacedMembers (depth : Nat) : List (String × Json) → List Char
  | [] => spacing.line depth ++ ['\x7d']
  | (k, v) :: ms =>
      ',' :: spacing.line (depth + 1) ++ stringChars k ++ ':' :: spacing.afterColon ++
        spaced (depth + 1) v ++ spacedMembers depth ms

end

mutual

theorem spaced_compact : (j : Json) → (depth : Nat) → spaced .compact depth j = chars j
  | .null, _ => rfl
  | .bool true, _ => rfl
  | .bool false, _ => rfl
  | .number _, _ => rfl
  | .string _, _ => rfl
  | .array [], _ => rfl
  | .array (x :: xs), depth => by
      simp [spaced, chars, Spacing.compact, ← spaced_compact x (depth + 1),
        ← spacedItems_compact xs depth]
  | .object [], _ => rfl
  | .object ((_, v) :: ms), depth => by
      simp [spaced, chars, Spacing.compact, ← spaced_compact v (depth + 1),
        ← spacedMembers_compact ms depth]

theorem spacedItems_compact :
    (xs : List Json) → (depth : Nat) → spacedItems .compact depth xs = itemsChars xs
  | [], _ => rfl
  | x :: xs, depth => by
      simp [spacedItems, itemsChars, Spacing.compact, ← spaced_compact x (depth + 1),
        ← spacedItems_compact xs depth]

theorem spacedMembers_compact :
    (ms : List (String × Json)) → (depth : Nat) → spacedMembers .compact depth ms = membersChars ms
  | [], _ => rfl
  | (_, v) :: ms, depth => by
      simp [spacedMembers, membersChars, Spacing.compact, ← spaced_compact v (depth + 1),
        ← spacedMembers_compact ms depth]

end

mutual

theorem spaced_spread : (j : Json) → (depth : Nat) → spaced .spread depth j = prettyChars depth j
  | .null, _ => rfl
  | .bool true, _ => rfl
  | .bool false, _ => rfl
  | .number _, _ => rfl
  | .string _, _ => rfl
  | .array [], _ => rfl
  | .array (x :: xs), depth => by
      simp [spaced, prettyChars, Spacing.spread, ← spaced_spread x (depth + 1),
        ← spacedItems_spread xs depth]
  | .object [], _ => rfl
  | .object ((_, v) :: ms), depth => by
      simp [spaced, prettyChars, Spacing.spread, ← spaced_spread v (depth + 1),
        ← spacedMembers_spread ms depth]

theorem spacedItems_spread :
    (xs : List Json) → (depth : Nat) → spacedItems .spread depth xs = prettyItems depth xs
  | [], _ => rfl
  | x :: xs, depth => by
      simp [spacedItems, prettyItems, Spacing.spread, ← spaced_spread x (depth + 1),
        ← spacedItems_spread xs depth]

theorem spacedMembers_spread :
    (ms : List (String × Json)) → (depth : Nat) →
      spacedMembers .spread depth ms = prettyMembers depth ms
  | [], _ => rfl
  | (_, v) :: ms, depth => by
      simp [spacedMembers, prettyMembers, Spacing.spread, ← spaced_spread v (depth + 1),
        ← spacedMembers_spread ms depth]

end

/-! ## Both forms are written as the grammar says -/

theorem blank_of_isSpace {cs : List Char} (spaces : ∀ g ∈ letters cs, isSpace g = true) :
    Blank cs :=
  fun _ member => isSpace_iff.1 (spaces _ (List.mem_map_of_mem member))

theorem Spacing.blank_line (depth : Nat) : Blank (spacing.line depth) :=
  blank_of_isSpace (spacing.space_line depth)

theorem Spacing.blank_afterColon : Blank spacing.afterColon :=
  blank_of_isSpace spacing.space_afterColon

-- A printed tree is written as the tree that becomes of it, which is another only if one of its
-- numbers is.
mutual

theorem writtenValue_spaced : (j : Json) → (depth : Nat) → {k : Json} → j.reread? = some k →
    WrittenValue k (spaced spacing depth j)
  | .null, _, _, back => by cases back; exact .null
  | .bool true, _, _, back => by cases back; exact .yes
  | .bool false, _, _, back => by cases back; exact .no
  | .number n, _, _, back => by
      obtain ⟨m, read, rfl⟩ := Option.map_eq_some_iff.1 back
      exact .number (reread?_eq_some_iff.1 read)
  | .string s, _, _, back => by cases back; exact .string (writtenChars_flatMap s.toList)
  | .array [], _, _, back => by cases back; exact .emptyArray blank_nil
  | .array (x :: xs), depth, _, back => by
      obtain ⟨_, items, rfl⟩ := reread?_array_eq_some_iff.1 back
      obtain ⟨y, others, first, later, rfl⟩ := rereadItems?_cons_eq_some_iff.1 items
      have written := WrittenValue.array (spacing.blank_line (depth + 1))
        (writtenValue_spaced x (depth + 1) first) (writtenItems_spaced xs depth later)
      simpa [spaced] using written
  | .object [], _, _, back => by cases back; exact .emptyObject blank_nil
  | .object ((key, v) :: ms), depth, _, back => by
      obtain ⟨_, members, rfl⟩ := reread?_object_eq_some_iff.1 back
      obtain ⟨w, others, first, later, rfl⟩ := rereadMembers?_cons_eq_some_iff.1 members
      have member := WrittenMember.member (writtenChars_flatMap key.toList) blank_nil
        spacing.blank_afterColon (writtenValue_spaced v (depth + 1) first)
      have written := WrittenValue.object (spacing.blank_line (depth + 1)) member
        (writtenMembers_spaced ms depth later)
      simpa [spaced, stringChars] using written

theorem writtenItems_spaced : (xs : List Json) → (depth : Nat) → {ys : List Json} →
    rereadItems? xs = some ys → WrittenItems ys (spacedItems spacing depth xs)
  | [], depth, _, back => by cases back; exact .ended (spacing.blank_line depth)
  | x :: xs, depth, _, back => by
      obtain ⟨y, others, first, later, rfl⟩ := rereadItems?_cons_eq_some_iff.1 back
      have written := WrittenItems.more blank_nil (spacing.blank_line (depth + 1))
        (writtenValue_spaced x (depth + 1) first) (writtenItems_spaced xs depth later)
      simpa [spacedItems] using written

theorem writtenMembers_spaced : (ms : List (String × Json)) → (depth : Nat) →
    {ns : List (String × Json)} → rereadMembers? ms = some ns →
      WrittenMembers ns (spacedMembers spacing depth ms)
  | [], depth, _, back => by cases back; exact .ended (spacing.blank_line depth)
  | (key, v) :: ms, depth, _, back => by
      obtain ⟨w, others, first, later, rfl⟩ := rereadMembers?_cons_eq_some_iff.1 back
      have member := WrittenMember.member (writtenChars_flatMap key.toList) blank_nil
        spacing.blank_afterColon (writtenValue_spaced v (depth + 1) first)
      have written := WrittenMembers.more blank_nil (spacing.blank_line (depth + 1)) member
        (writtenMembers_spaced ms depth later)
      simpa [spacedMembers, stringChars] using written

end

theorem spaced_start (depth : Nat) (j : Json) :
    ∃ c cs, spaced spacing depth j = c :: cs ∧ isSpace (.char c) = false ∧ c ≠ ']' := by
  cases j with
  | number n =>
      obtain ⟨c, others, text, begins⟩ := numberChars_start n
      refine ⟨c, others, text, solid_of_beginsNumber begins, ?_⟩
      rintro rfl
      exact absurd begins (by decide)
  | bool b => cases b <;> exact ⟨_, _, rfl, by decide⟩
  | array xs => cases xs <;> exact ⟨_, _, rfl, by decide⟩
  | object ms => cases ms <;> exact ⟨_, _, rfl, by decide⟩
  | _ => exact ⟨_, _, rfl, by decide⟩

variable {spacing} {most : Nat}

/-! ## Whole documents -/

theorem glyphs_ofList (cs : List Char) : Text.glyphs (String.ofList cs) = letters cs := by
  rw [Text.glyphs, String.toList_ofList, letters]

theorem on_value_document {j k : Json} (depth : Nat) (back : j.reread? = some k)
    (small : j.levels ≤ most) :
    (value most).on (letters (spaced spacing depth j)) = some (k, []) := by
  rw [← levels_of_reread? j back] at small
  rw [← List.append_nil (letters _)]
  exact on_value_of_written most [] (writtenValue_spaced spacing j depth back) small endsNumber_nil

theorem on_value_render {j k : Json} (back : j.reread? = some k) (small : j.levels ≤ most) :
    (value most).on (Text.glyphs j.render) = some (k, []) := by
  rw [render, glyphs_ofList, ← spaced_compact j 0]
  exact on_value_document 0 back small

theorem on_value_pretty {j k : Json} (back : j.reread? = some k) (small : j.levels ≤ most) :
    (value most).on (Text.glyphs j.pretty) = some (k, []) := by
  rw [pretty, glyphs_ofList, ← spaced_spread j 0]
  exact on_value_document 0 back small

end HolderBond.Json
