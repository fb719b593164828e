import HolderBond.Proofs.Json.Levels
import HolderBond.Proofs.Json.Members

/-!
# Rearranged trees

A tree is rearranged when the members of its objects, at any depth, are written in another
order.  Where no object has a key twice this changes nothing that a tree is understood as, and
sorting is one way to do it.
-/

set_option autoImplicit false

namespace HolderBond.Json

/-! ## Keys that are not repeated -/

mutual

def Distinct : Json → Prop
  | .array xs => ItemsDistinct xs
  | .object ms => (ms.map Prod.fst).Nodup ∧ MembersDistinct ms
  | .null => True
  | .bool _ => True
  | .number _ => True
  | .string _ => True

def ItemsDistinct : List Json → Prop
  | [] => True
  | x :: xs => x.Distinct ∧ ItemsDistinct xs

def MembersDistinct : List (String × Json) → Prop
  | [] => True
  | (_, v) :: ms => v.Distinct ∧ MembersDistinct ms

end

/-! ## Another order of members -/

mutual

/-- Whether one tree is another with the members of its objects in another order. -/
inductive Rearranged : Json → Json → Prop where
  | same (tree : Json) : Rearranged tree tree
  | array {xs ys : List Json} (items : RearrangedItems xs ys) :
      Rearranged (.array xs) (.array ys)
  | object {ms ns ps : List (String × Json)} (values : RearrangedMembers ms ns)
      (order : ns.Perm ps) : Rearranged (.object ms) (.object ps)

inductive RearrangedItems : List Json → List Json → Prop where
  | nil : RearrangedItems [] []
  | cons {x y : Json} {xs ys : List Json} (item : Rearranged x y)
      (others : RearrangedItems xs ys) : RearrangedItems (x :: xs) (y :: ys)

inductive RearrangedMembers : List (String × Json) → List (String × Json) → Prop where
  | nil : RearrangedMembers [] []
  | cons {key : String} {v w : Json} {ms ns : List (String × Json)} (value : Rearranged v w)
      (others : RearrangedMembers ms ns) : RearrangedMembers ((key, v) :: ms) ((key, w) :: ns)

end

theorem RearrangedMembers.keys_eq {ms ns : List (String × Json)}
    (values : RearrangedMembers ms ns) : ms.map Prod.fst = ns.map Prod.fst := by
  induction ms generalizing ns with
  | nil =>
      cases values
      rfl
  | cons m ms ih =>
      cases values with
      | cons value others => simp [ih others]

/-- Where keys are distinct, the order of members says nothing about their values. -/
theorem latest_perm {ms ns : List (String × Json)} (order : ms.Perm ns)
    (distinct : (ms.map Prod.fst).Nodup) (key : String) : latest key ms = latest key ns := by
  have others : (ns.map Prod.fst).Nodup := (order.map Prod.fst).nodup_iff.1 distinct
  refine Option.ext fun value => ?_
  rw [latest_eq_some_iff distinct, latest_eq_some_iff others, order.mem_iff]

/-! ## What stays -/

mutual

theorem Rearranged.levels_le : {tree other : Json} → Rearranged tree other →
    other.levels ≤ tree.levels
  | _, _, .same _ => Nat.le_refl _
  | _, _, .array items => Nat.succ_le_succ items.levels_le
  | _, _, .object values order => by
      refine Nat.succ_le_succ (membersLevels_le_iff.2 fun m member => ?_)
      exact membersLevels_le_iff.1 values.levels_le m (order.mem_iff.2 member)

theorem RearrangedItems.levels_le : {xs ys : List Json} → RearrangedItems xs ys →
    itemsLevels ys ≤ itemsLevels xs
  | _, _, .nil => Nat.le_refl _
  | _, _, .cons item others => by
      have here := item.levels_le
      have later := others.levels_le
      simp only [itemsLevels]
      omega

theorem RearrangedMembers.levels_le : {ms ns : List (String × Json)} → RearrangedMembers ms ns →
    membersLevels ns ≤ membersLevels ms
  | _, _, .nil => Nat.le_refl _
  | _, _, .cons value others => by
      have here := value.levels_le
      have later := others.levels_le
      simp only [membersLevels]
      omega

end

mutual

theorem Rearranged.sort_eq : {tree other : Json} → Rearranged tree other → tree.Distinct →
    tree.sort = other.sort
  | _, _, .same _, _ => rfl
  | _, _, .array items, distinct => congrArg Json.array (items.sortItems_eq distinct)
  | _, _, .object values order, distinct => by
      -- Sorted members depend only on the last value of each key, and here it is the only one.
      have keys := distinct.1
      rw [values.keys_eq] at keys
      refine congrArg Json.object (sortMembers_eq fun key => ?_)
      rw [values.latest_eq distinct.2 key, latest_perm order keys key]

theorem RearrangedItems.sortItems_eq : {xs ys : List Json} → RearrangedItems xs ys →
    ItemsDistinct xs → sortItems xs = sortItems ys
  | _, _, .nil, _ => rfl
  | _, _, .cons item others, distinct => by
      rw [sortItems, sortItems, item.sort_eq distinct.1, others.sortItems_eq distinct.2]

theorem RearrangedMembers.latest_eq : {ms ns : List (String × Json)} → RearrangedMembers ms ns →
    MembersDistinct ms → (key : String) → (latest key ms).map sort = (latest key ns).map sort
  | _, _, .nil, _, _ => rfl
  | (k, _) :: _, _, .cons value others, distinct, key => by
      have later := others.latest_eq distinct.2 key
      have here := value.sort_eq distinct.1
      rw [latest_cons, latest_cons, Option.map_or, Option.map_or, later]
      by_cases same : k = key <;> simp [same, here]

end

/-! ## Sorting -/

theorem perm_place {key : String} {value : Json} {ms : List (String × Json)}
    (new : ∀ m ∈ ms, m.1 ≠ key) : ((key, value) :: ms).Perm (place key value ms) := by
  induction ms with
  | nil => exact List.Perm.refl _
  | cons m ms ih =>
      obtain ⟨k, v⟩ := m
      have distinct : key ≠ k := (new _ List.mem_cons_self).symm
      rw [place, if_neg distinct]
      split
      · exact List.Perm.refl _
      · exact (List.Perm.swap _ _ _).trans
          ((ih fun m member => new m (List.mem_cons_of_mem _ member)).cons _)

theorem perm_sortMembers {ms : List (String × Json)} (distinct : (ms.map Prod.fst).Nodup) :
    (ms.map fun m => (m.1, m.2.sort)).Perm (sortMembers ms) := by
  induction ms with
  | nil => exact List.Perm.refl _
  | cons m ms ih =>
      obtain ⟨k, v⟩ := m
      rw [List.map_cons, List.nodup_cons] at distinct
      have new : ∀ m ∈ sortMembers ms, m.1 ≠ k := by
        rintro m member rfl
        obtain ⟨w, old, -⟩ := exists_of_mem_sortMembers member
        exact distinct.1 (List.mem_map.2 ⟨_, old, rfl⟩)
      rw [List.map_cons, sortMembers]
      exact ((ih distinct.2).cons _).trans (perm_place new)

mutual

theorem rearranged_sort : (tree : Json) → tree.Distinct → Rearranged tree tree.sort
  | .null, _ => .same _
  | .bool _, _ => .same _
  | .number _, _ => .same _
  | .string _, _ => .same _
  | .array xs, distinct => .array (rearrangedItems_sort xs distinct)
  | .object ms, distinct =>
      .object (rearrangedMembers_sort ms distinct.2) (perm_sortMembers distinct.1)

theorem rearrangedItems_sort : (xs : List Json) → ItemsDistinct xs →
    RearrangedItems xs (sortItems xs)
  | [], _ => .nil
  | x :: xs, distinct => .cons (rearranged_sort x distinct.1) (rearrangedItems_sort xs distinct.2)

theorem rearrangedMembers_sort : (ms : List (String × Json)) → MembersDistinct ms →
    RearrangedMembers ms (ms.map fun m => (m.1, m.2.sort))
  | [], _ => .nil
  | (_, v) :: ms, distinct =>
      .cons (rearranged_sort v distinct.1) (rearrangedMembers_sort ms distinct.2)

end

end HolderBond.Json
