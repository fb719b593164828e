import HolderBond.Proofs.Json.Rearranged
import HolderBond.Proofs.Shape.Agreement

/-!
# The order of members does not matter

Members of different fields are put into different slots, so what an object without repeated
keys is read as does not depend on their order.  By induction on the shape the same holds of
every document and at every depth.
-/

set_option autoImplicit false

namespace HolderBond

open HolderBond.Json (Error ItemsDistinct MembersDistinct Rearranged RearrangedItems
  RearrangedMembers)

/-- Readings of trees that are the same for trees that differ in the order of members. -/
def IgnoresOrder {α : Type} (meaning : Json → Except Error α) : Prop :=
  ∀ tree other, tree.Distinct → Rearranged tree other →
    (meaning tree).toOption = (meaning other).toOption

section Results

variable {α β : Type}

theorem toOption_bind (result : Except Error α) (next : α → Except Error β) :
    (result >>= next).toOption = result.toOption.bind fun a => (next a).toOption := by
  cases result <;> rfl

theorem toOption_map (f : α → β) (result : Except Error α) :
    (f <$> result).toOption = result.toOption.map f := by
  cases result <;> rfl

end Results

/-! ## Records -/

namespace Fields

variable {α β : Type}

def put (fields : Fields α) (all : fields.Slots) (entry : String × Json) : Option fields.Slots :=
  (fields.takeMember entry.1 entry.2 all).toOption

section Put

variable {key : String} {presence : Presence α} {shape : Shape α} {rest : Fields β}
variable {entry first second : String × Json}

theorem put_here (here : entry.1 = key) (slot : Option α) (others : rest.Slots) :
    (Fields.cons key presence shape rest).put (slots slot others) entry =
      if slot.isSome then none
      else (shape.ofTree entry.2).toOption.map fun a => slots (some a) others := by
  rw [put, takeMember_cons, if_pos here]
  split
  · rfl
  · rw [bind_pure_comp, toOption_map]

theorem put_elsewhere (elsewhere : entry.1 ≠ key) (slot : Option α) (others : rest.Slots) :
    (Fields.cons key presence shape rest).put (slots slot others) entry =
      (rest.put others entry).map (slots slot) := by
  rw [put, takeMember_other elsewhere, toOption_map, put]

theorem put_comm_here (here : first.1 = key) (elsewhere : second.1 ≠ key) (slot : Option α)
    (others : rest.Slots) :
    (((Fields.cons key presence shape rest).put (slots slot others) first).bind fun all =>
        (Fields.cons key presence shape rest).put all second) =
      ((Fields.cons key presence shape rest).put (slots slot others) second).bind fun all =>
        (Fields.cons key presence shape rest).put all first := by
  rw [put_here here, put_elsewhere elsewhere, Option.bind_map]
  simp only [Function.comp_def, put_here here]
  cases slot with
  | some a => cases rest.put others second <;> rfl
  | none =>
      simp only [Option.isSome_none, Bool.false_eq_true, if_false, Option.bind_map,
        Function.comp_def, put_elsewhere elsewhere]
      cases (shape.ofTree first.2).toOption <;> cases rest.put others second <;> rfl

end Put

theorem takeMember_unknown : {α : Type} → (fields : Fields α) → (key : String) → (tree : Json) →
    key ∉ fields.keys → (all : fields.Slots) → fields.takeMember key tree all = .ok all
  | _, .nil, _, _, _, _ => rfl
  | _, .cons name presence shape rest, key, tree, unknown, all => by
      obtain ⟨slot, others⟩ := all
      rw [keys, List.mem_cons, not_or] at unknown
      refine (takeMember_other unknown.1 tree slot others).trans ?_
      rw [takeMember_unknown rest key tree unknown.2 others]
      rfl

theorem toOption_take (fields : Fields α) (all : fields.Slots) (entry : String × Json) :
    (fields.take all entry).toOption = fields.put all entry := by
  rw [take, put]
  split
  · rfl
  · next unknown =>
      have absent : entry.1 ∉ fields.keys := fun known =>
        unknown (List.contains_iff_mem.2 known)
      rw [takeMember_unknown fields entry.1 entry.2 absent]
      rfl

theorem toOption_foldlM_take (fields : Fields α) (entries : List (String × Json))
    (all : fields.Slots) :
    (entries.foldlM fields.take all).toOption = entries.foldlM fields.put all := by
  induction entries generalizing all with
  | nil => rfl
  | cons entry entries ih =>
      rw [List.foldlM_cons, List.foldlM_cons, toOption_bind, toOption_take]
      exact congrArg (Option.bind (fields.put all entry)) (funext fun next => ih next)

theorem put_comm : {α : Type} → (fields : Fields α) → {first second : String × Json} →
    first.1 ≠ second.1 → (all : fields.Slots) →
      ((fields.put all first).bind fun all => fields.put all second) =
        (fields.put all second).bind fun all => fields.put all first
  | _, .nil, _, _, _, _ => rfl
  | _, .cons key presence shape rest, first, second, different, all => by
      obtain ⟨slot, others⟩ := all
      -- At most one of the two belongs to the field in front; the other, or both, go further down.
      by_cases isFirst : first.1 = key
      · exact put_comm_here isFirst (fun same => different (isFirst.trans same.symm)) slot others
      · by_cases isSecond : second.1 = key
        · exact (put_comm_here isSecond isFirst slot others).symm
        · change (((Fields.cons key presence shape rest).put (slots slot others) first).bind _) =
            ((Fields.cons key presence shape rest).put (slots slot others) second).bind _
          rw [put_elsewhere isFirst, put_elsewhere isSecond, Option.bind_map, Option.bind_map]
          simp only [Function.comp_def, put_elsewhere isFirst, put_elsewhere isSecond]
          exact (Option.map_bind ..).symm.trans
            ((congrArg _ (put_comm rest different others)).trans (Option.map_bind ..))

/-- Members with distinct keys may be put in any order. -/
theorem foldlM_put_perm (fields : Fields α) {ms ns : List (String × Json)} (order : ms.Perm ns)
    (distinct : (ms.map Prod.fst).Nodup) (all : fields.Slots) :
    ms.foldlM fields.put all = ns.foldlM fields.put all := by
  induction order generalizing all with
  | nil => rfl
  | cons m order ih =>
      rw [List.foldlM_cons, List.foldlM_cons]
      exact congrArg (Option.bind (fields.put all m))
        (funext fun next => ih (List.nodup_cons.1 distinct).2 next)
  | swap m n ms =>
      have different : n.1 ≠ m.1 := fun same =>
        (List.nodup_cons.1 distinct).1 (List.mem_cons.2 (Or.inl same))
      have swapped := fields.put_comm different all
      simp only [List.foldlM_cons, ← bind_assoc]
      exact congrArg (Option.bind · fun all => ms.foldlM fields.put all) swapped
  | trans first _ ihFirst ihSecond =>
      exact (ihFirst distinct all).trans
        (ihSecond ((first.map Prod.fst).nodup_iff.1 distinct) all)

/-! ### Rearranged values -/

def PutsAlike (fields : Fields α) : Prop :=
  ∀ key v w all, v.Distinct → Rearranged v w → fields.put all (key, v) = fields.put all (key, w)

def TakesAlike (fields : Fields α) : Prop :=
  ∀ expected index xs ys, ItemsDistinct xs → RearrangedItems xs ys →
    fields.takeAll expected index xs = fields.takeAll expected index ys

theorem putsAlike_nil : Fields.nil.PutsAlike :=
  fun _ _ _ _ _ _ => rfl

theorem putsAlike_cons {key : String} {presence : Presence α} {shape : Shape α} {rest : Fields β}
    (ignores : IgnoresOrder shape.ofTree) (puts : rest.PutsAlike) :
    (Fields.cons key presence shape rest).PutsAlike := by
  intro name v w all distinct rearranged
  obtain ⟨slot, others⟩ := all
  change (Fields.cons key presence shape rest).put (slots slot others) (name, v) =
    (Fields.cons key presence shape rest).put (slots slot others) (name, w)
  by_cases here : name = key
  · rw [put_here here, put_here here, ignores v w distinct rearranged]
  · rw [put_elsewhere here, put_elsewhere here, puts name v w others distinct rearranged]

theorem takesAlike_nil : Fields.nil.TakesAlike := by
  intro expected index xs ys distinct rearranged
  cases rearranged <;> rfl

theorem takesAlike_cons {key : String} {presence : Presence α} {shape : Shape α}
    {rest : Fields β} (ignores : IgnoresOrder shape.ofTree) (takes : rest.TakesAlike) :
    (Fields.cons key presence shape rest).TakesAlike := by
  intro expected index xs ys distinct rearranged
  cases rearranged with
  | nil => rfl
  | cons item others =>
      rw [takeAll_cons, takeAll_cons, ignores _ _ distinct.1 item,
        takes _ _ _ _ distinct.2 others]

theorem foldlM_put_values {fields : Fields α} (puts : fields.PutsAlike)
    {ms ns : List (String × Json)} (distinct : MembersDistinct ms)
    (values : RearrangedMembers ms ns) (all : fields.Slots) :
    ms.foldlM fields.put all = ns.foldlM fields.put all := by
  induction ms generalizing ns all with
  | nil =>
      cases values
      rfl
  | cons m ms ih =>
      cases values with
      | cons value others =>
          rw [List.foldlM_cons, List.foldlM_cons, puts _ _ _ all distinct.1 value]
          exact congrArg (Option.bind _) (funext fun next => ih distinct.2 others next)

theorem foldlM_take_rearranged {fields : Fields α} (puts : fields.PutsAlike)
    {ms ns ps : List (String × Json)} (keys : (ms.map Prod.fst).Nodup)
    (distinct : MembersDistinct ms) (values : RearrangedMembers ms ns) (order : ns.Perm ps)
    (all : fields.Slots) :
    (ms.foldlM fields.take all).toOption = (ps.foldlM fields.take all).toOption := by
  rw [toOption_foldlM_take, toOption_foldlM_take, foldlM_put_values puts distinct values]
  rw [values.keys_eq] at keys
  exact fields.foldlM_put_perm order keys all

end Fields

/-! ## Shapes -/

namespace Shape

variable {α β : Type}

theorem ignoresOrder_value : IgnoresOrder Shape.value.ofTree := by
  intro tree other distinct rearranged
  have understood : FreeForm.ofTree tree = FreeForm.ofTree other := by
    simp only [FreeForm.ofTree, rearranged.sort_eq distinct]
  exact congrArg some understood

theorem ignoresOrder_of_simple {meaning : Json → Except Error α}
    (array : ∀ xs, (meaning (.array xs)).toOption = none)
    (object : ∀ ms, (meaning (.object ms)).toOption = none) : IgnoresOrder meaning := by
  intro tree other _ rearranged
  cases rearranged with
  | same => rfl
  | array => rw [array, array]
  | object => rw [object, object]

theorem ignoresOrder_choice {c : Choice α} : IgnoresOrder (Shape.choice c).ofTree := by
  intro tree other _ rearranged
  cases rearranged with
  | same => rfl
  | array => rfl
  | @object _ _ ps values order =>
      -- A single member has only one place, and its value is null still if it was.
      cases values with
      | nil => rw [List.nil_perm.1 order]
      | cons value others =>
          cases others with
          | nil =>
              rw [← List.singleton_perm.1 order]
              cases value with
              | same => rfl
              | array => rfl
              | object => rfl
          | cons =>
              match ps, order.length_eq with
              | _ :: _ :: _, _ => rfl

theorem ignoresOrder_optional {inner : Shape α} (ignores : IgnoresOrder inner.ofTree) :
    IgnoresOrder (Shape.optional inner).ofTree := by
  intro tree other distinct rearranged
  have inside := congrArg (Option.map some) (ignores tree other distinct rearranged)
  rw [← toOption_map, ← toOption_map] at inside
  cases rearranged with
  | same => rfl
  | array => exact inside
  | object => exact inside

theorem toOption_mapM_rearranged {meaning : Json → Except Error α} (ignores : IgnoresOrder meaning)
    {xs ys : List Json} (distinct : ItemsDistinct xs) (items : RearrangedItems xs ys) :
    (xs.mapM meaning).toOption = (ys.mapM meaning).toOption := by
  induction xs generalizing ys with
  | nil =>
      cases items
      rfl
  | cons x xs ih =>
      cases items with
      | cons item others =>
          simp only [List.mapM_cons, toOption_bind, ignores _ _ distinct.1 item,
            ih distinct.2 others]

theorem ignoresOrder_list {inner : Shape α} (ignores : IgnoresOrder inner.ofTree) :
    IgnoresOrder (Shape.list inner).ofTree := by
  intro tree other distinct rearranged
  cases rearranged with
  | same => rfl
  | array items => exact toOption_mapM_rearranged ignores distinct items
  | object => rfl

theorem ofEntries_eq {ms ns : List (String × Json)}
    (same : Json.sortMembers ms = Json.sortMembers ns) :
    Members.ofEntries ms = Members.ofEntries ns := by
  simp only [Members.ofEntries, same]

theorem ignoresOrder_members : IgnoresOrder Shape.members.ofTree := by
  intro tree other distinct rearranged
  have understood := rearranged.sort_eq distinct
  cases rearranged with
  | same => rfl
  | array => rfl
  | object => exact congrArg some (ofEntries_eq (Json.object.inj understood))

theorem toOption_ofTree_array {name : String} {positional : Bool} {fields : Fields α}
    (xs : List Json) : ((Shape.record name positional fields).ofTree (.array xs)).toOption =
      if positional then fields.takeAll (fields.positionalWords name) 0 xs else none := by
  rw [Shape.ofTree]
  split
  · unfold Fields.takeAll
    cases fields.takeItems (fields.positionalWords name) 0 xs with
    | error e => rfl
    | ok taken =>
        obtain ⟨a, left⟩ := taken
        cases left <;> rfl
  · rfl

theorem ignoresOrder_record {name : String} {positional : Bool} {fields : Fields α}
    (puts : fields.PutsAlike) (takes : fields.TakesAlike) :
    IgnoresOrder (Shape.record name positional fields).ofTree := by
  intro tree other distinct rearranged
  cases rearranged with
  | same => rfl
  | array items =>
      rw [toOption_ofTree_array, toOption_ofTree_array, takes _ _ _ _ distinct items]
  | object values order =>
      have taken := Fields.foldlM_take_rearranged puts distinct.1 distinct.2 values order
        fields.noSlots
      have means : ∀ entries, (Shape.record name positional fields).ofTree (.object entries) =
          entries.foldlM fields.take fields.noSlots >>= fields.complete := fun _ => rfl
      rw [means, means, toOption_bind, toOption_bind, taken]

theorem ignoresOrder_extended {name : String} {fields : Fields α} (puts : fields.PutsAlike) :
    IgnoresOrder (Shape.extended name fields).ofTree := by
  intro tree other distinct rearranged
  have understood := rearranged.sort_eq distinct
  cases rearranged with
  | same => rfl
  | array => rfl
  | @object ms ns ps values order =>
      have taken := Fields.foldlM_take_rearranged puts distinct.1 distinct.2 values order
        fields.noSlots
      -- What no field takes is kept sorted; filtering by key leaves the last values as they are.
      have kept : Members.ofEntries (ms.filter fun m => !fields.keys.contains m.1) =
          Members.ofEntries (ps.filter fun m => !fields.keys.contains m.1) := by
        refine ofEntries_eq (Json.sortMembers_eq fun key => ?_)
        rw [Json.latest_filter_key (fun key => !fields.keys.contains key),
          Json.latest_filter_key (fun key => !fields.keys.contains key)]
        split
        · rw [← Json.latest_sortMembers, ← Json.latest_sortMembers, Json.object.inj understood]
        · rfl
      have means : ∀ entries, (Shape.extended name fields).ofTree (.object entries) =
          entries.foldlM fields.take fields.noSlots >>= fun all =>
            fields.complete all >>= fun a => pure (a, Members.ofEntries
              (entries.filter fun m => !fields.keys.contains m.1)) := fun _ => rfl
      rw [means, means, toOption_bind, toOption_bind, taken, kept]

theorem ignoresOrder_via {inner : Shape α} {c : Correspondence α β}
    (ignores : IgnoresOrder inner.ofTree) : IgnoresOrder (Shape.via inner c).ofTree := by
  intro tree other distinct rearranged
  rw [Shape.ofTree, Shape.ofTree, toOption_map, toOption_map,
    ignores tree other distinct rearranged]

end Shape

mutual

/-- No shape makes a difference between trees that differ in the order of members. -/
theorem Shape.ignoresOrder : {α : Type} → (shape : Shape α) → IgnoresOrder shape.ofTree
  | _, .value => Shape.ignoresOrder_value
  | _, .text => Shape.ignoresOrder_of_simple (fun _ => rfl) fun _ => rfl
  | _, .flag => Shape.ignoresOrder_of_simple (fun _ => rfl) fun _ => rfl
  | _, .natural _ => Shape.ignoresOrder_of_simple (fun _ => rfl) fun _ => rfl
  | _, .written _ => Shape.ignoresOrder_of_simple (fun _ => rfl) fun _ => rfl
  | _, .choice _ => Shape.ignoresOrder_choice
  | _, .optional inner => Shape.ignoresOrder_optional inner.ignoresOrder
  | _, .list inner => Shape.ignoresOrder_list inner.ignoresOrder
  | _, .members => Shape.ignoresOrder_members
  | _, .record _ _ fields => Shape.ignoresOrder_record fields.putsAlike fields.takesAlike
  | _, .extended _ fields => Shape.ignoresOrder_extended fields.putsAlike
  | _, .via inner _ => Shape.ignoresOrder_via inner.ignoresOrder

theorem Fields.putsAlike {α : Type} (fields : Fields α) : fields.PutsAlike := by
  cases fields with
  | nil => exact Fields.putsAlike_nil
  | cons key presence shape rest => exact Fields.putsAlike_cons shape.ignoresOrder rest.putsAlike

theorem Fields.takesAlike {α : Type} (fields : Fields α) : fields.TakesAlike := by
  cases fields with
  | nil => exact Fields.takesAlike_nil
  | cons key presence shape rest => exact Fields.takesAlike_cons shape.ignoresOrder rest.takesAlike

end

end HolderBond
