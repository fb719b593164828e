import HolderBond.Proofs.Json.Accepted
import HolderBond.Proofs.Json.Members
import HolderBond.Proofs.Json.Printed

/-!
# Trees that say the same

Two trees are alike if they say the same: objects the same of every key, whatever the order of
their members and whatever a repeated key said before, arrays the same item by item.  Sorting
brings alike trees, and no others, to one tree, so the text that is written for a sorted tree tells
apart what is not alike and nothing else.
-/

set_option autoImplicit false

namespace HolderBond.Json

mutual

/-- Equality of what trees say. -/
inductive Alike : Json → Json → Prop where
  | null : Alike .null .null
  | bool (b : Bool) : Alike (.bool b) (.bool b)
  | number (n : JsonNumber) : Alike (.number n) (.number n)
  | string (s : String) : Alike (.string s) (.string s)
  | array {xs ys : List Json} (items : AlikeItems xs ys) : Alike (.array xs) (.array ys)
  | object {ms ns : List (String × Json)}
      (values : ∀ key, AlikeValues (latest key ms) (latest key ns)) :
      Alike (.object ms) (.object ns)

inductive AlikeItems : List Json → List Json → Prop where
  | nil : AlikeItems [] []
  | cons {x y : Json} {xs ys : List Json} (first : Alike x y) (rest : AlikeItems xs ys) :
      AlikeItems (x :: xs) (y :: ys)

inductive AlikeValues : Option Json → Option Json → Prop where
  | absent : AlikeValues none none
  | present {v w : Json} (alike : Alike v w) : AlikeValues (some v) (some w)

end

/-! ## Sorting -/

mutual

theorem Alike.sort_eq : {q r : Json} → Alike q r → q.sort = r.sort
  | _, _, .null => rfl
  | _, _, .bool _ => rfl
  | _, _, .number _ => rfl
  | _, _, .string _ => rfl
  | _, _, .array items => congrArg Json.array items.sort_eq
  | _, _, .object values =>
      congrArg Json.object (sortMembers_eq fun key => (values key).sort_eq)

theorem AlikeItems.sort_eq : {xs ys : List Json} → AlikeItems xs ys → sortItems xs = sortItems ys
  | _, _, .nil => rfl
  | _, _, .cons first rest => by rw [sortItems, sortItems, first.sort_eq, rest.sort_eq]

theorem AlikeValues.sort_eq : {v w : Option Json} → AlikeValues v w → v.map sort = w.map sort
  | _, _, .absent => rfl
  | _, _, .present alike => congrArg some alike.sort_eq

end

theorem alikeValues_of_map_sort {v w : Option Json}
    (each : ∀ x, v = some x → ∀ y, x.sort = y.sort → Alike x y)
    (same : v.map sort = w.map sort) : AlikeValues v w := by
  cases v with
  | none =>
      cases w with
      | none => exact .absent
      | some y => cases same
  | some x =>
      cases w with
      | none => cases same
      | some y => exact .present (each x rfl y (Option.some.inj same))

theorem mem_of_latest {key : String} {v : Json} {ms : List (String × Json)}
    (found : latest key ms = some v) : (key, v) ∈ ms := by
  induction ms with
  | nil => cases found
  | cons m ms ih =>
      rw [latest_cons, Option.or_eq_some_iff] at found
      rcases found with later | ⟨-, here⟩
      · exact List.mem_cons_of_mem _ (ih later)
      · split at here
        · next same =>
            cases here
            exact same ▸ List.mem_cons_self
        · cases here

-- By recursion on the first tree; of an object the values are needed one by one, because which of
-- them counts is decided by the keys.
mutual

theorem alike_of_sort_eq : (q r : Json) → q.sort = r.sort → Alike q r
  | .null, r, same => by
      cases r with
      | null => exact .null
      | _ => cases same
  | .bool b, r, same => by
      cases r with
      | bool c => cases same; exact .bool b
      | _ => cases same
  | .number n, r, same => by
      cases r with
      | number m => cases same; exact .number n
      | _ => cases same
  | .string s, r, same => by
      cases r with
      | string t => cases same; exact .string s
      | _ => cases same
  | .array xs, r, same => by
      cases r with
      | array ys => exact .array (alikeItems_of_sort_eq xs ys (Json.array.inj same))
      | _ => cases same
  | .object ms, r, same => by
      cases r with
      | object ns =>
          refine .object fun key => alikeValues_of_map_sort ?_ ?_
          · intro x found y
            exact alike_of_sort_eq_of_mem ms (key, x) (mem_of_latest found) y
          · rw [← latest_sortMembers, ← latest_sortMembers, Json.object.inj same]
      | _ => cases same

theorem alikeItems_of_sort_eq : (xs ys : List Json) → sortItems xs = sortItems ys →
    AlikeItems xs ys
  | [], ys, same => by
      cases ys with
      | nil => exact .nil
      | cons y ys => cases same
  | x :: xs, ys, same => by
      cases ys with
      | nil => cases same
      | cons y ys =>
          rw [sortItems, sortItems, List.cons.injEq] at same
          exact .cons (alike_of_sort_eq x y same.1) (alikeItems_of_sort_eq xs ys same.2)

theorem alike_of_sort_eq_of_mem : (ms : List (String × Json)) → ∀ m ∈ ms, ∀ r,
    m.2.sort = r.sort → Alike m.2 r
  | [], _, known, _, _ => nomatch known
  | (_, v) :: ms, m, known, r, same => by
      rcases List.mem_cons.1 known with rfl | later
      · exact alike_of_sort_eq v r same
      · exact alike_of_sort_eq_of_mem ms m later r same

end

theorem alike_iff_sort_eq (q r : Json) : Alike q r ↔ q.sort = r.sort :=
  ⟨Alike.sort_eq, alike_of_sort_eq q r⟩

/-! ## Texts -/

/-- A text is a document of one tree at most. -/
theorem WrittenDocument.unique {q r : Json} {cs : List Char} (first : WrittenDocument q cs)
    (second : WrittenDocument r cs) : q = r := by
  obtain ⟨_, readFirst, -⟩ := on_value_of_document first (Nat.le_max_left q.levels r.levels)
  obtain ⟨_, readSecond, -⟩ := on_value_of_document second (Nat.le_max_right q.levels r.levels)
  cases readFirst.symm.trans readSecond
  rfl

/-- Of two trees the same is written if they say the same, and only then. -/
theorem render_ofTree_eq_iff (q r : Json) :
    (FreeForm.ofTree q).render = (FreeForm.ofTree r).render ↔ Alike q r := by
  rw [alike_iff_sort_eq]
  exact ⟨render_injective, congrArg render⟩

end HolderBond.Json
