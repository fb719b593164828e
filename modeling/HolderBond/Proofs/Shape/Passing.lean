import HolderBond.Proofs.Json.Members
import HolderBond.Proofs.Shape.Retaining

/-!
# What becomes of a value that is read and written again

What a shape makes of a tree is written as an edit of that tree.  Of an object that keeps its
unknown members, each known key is told apart by the field that it belongs to: by whether the
field may be absent, what is left out in writing, and what becomes of the field's own value.
Every other key has the value that it had.
-/

set_option autoImplicit false

namespace HolderBond

open HolderBond.Json (Error latest sort)

section Outcomes

variable {α β : Type} {result : Except Error α} {b : β}

theorem bind_eq_ok {next : α → Except Error β} :
    result >>= next = .ok b ↔ ∃ a, result = .ok a ∧ next a = .ok b := by
  cases result with
  | error e => simp [bind, Except.bind]
  | ok a => simp [bind, Except.bind]

theorem map_eq_ok {f : α → β} : f <$> result = .ok b ↔ ∃ a, result = .ok a ∧ f a = b := by
  cases result with
  | error e => simp [Functor.map, Except.map]
  | ok a => simp [Functor.map, Except.map]

end Outcomes

theorem FreeForm.ofTree_eq {tree other : Json} (same : tree.sort = other.sort) :
    FreeForm.ofTree tree = FreeForm.ofTree other := by
  simp only [FreeForm.ofTree, same]

/-! ## Values -/

namespace Shape

variable {α β : Type}

/-- Whatever is made of a tree is written as an edit of the tree as it is understood. -/
def PassesOn (shape : Shape α) (edit : Json → Json) : Prop :=
  ∀ tree a, shape.ofTree tree = .ok a → (shape.write a).sort = (edit tree.sort).sort

theorem passesOn_value : Shape.value.PassesOn id := by
  intro tree v made
  cases made
  rfl

theorem passesOn_text : Shape.text.PassesOn id := by
  intro tree s made
  cases tree with
  | string t =>
      cases made
      rfl
  | _ => cases made

theorem passesOn_natural (u : Unsigned α) : (Shape.natural u).PassesOn id := by
  intro tree a made
  cases tree with
  | number n =>
      have made : u.ofNumber n = .ok a := made
      cases n with
      | natural m =>
          rw [Unsigned.ofNumber] at made
          split at made
          · next b found =>
              cases made
              rw [Shape.write, u.toNat_of_ofNat? _ _ found, UInt64.ofNat_toNat]
              rfl
          · cases made
      | negative k => cases made
      | float x => cases made
  | _ => cases made

theorem via_cases {inner : Shape α} {c : Correspondence α β} {tree : Json} {b : β}
    (made : (Shape.via inner c).ofTree tree = .ok b) :
    ∃ a, inner.ofTree tree = .ok a ∧ (Shape.via inner c).write b = inner.write a := by
  rw [Shape.ofTree, map_eq_ok] at made
  obtain ⟨a, inside, rfl⟩ := made
  exact ⟨a, inside, by rw [Shape.write, c.view_make]⟩

theorem passesOn_via {inner : Shape α} {edit : Json → Json} (passes : inner.PassesOn edit)
    (c : Correspondence α β) : (Shape.via inner c).PassesOn edit := by
  intro tree b made
  obtain ⟨a, inside, written⟩ := via_cases made
  rw [written]
  exact passes tree a inside

theorem sortItems_of_mapM {inner : Shape α} {edit : Json → Json} (passes : inner.PassesOn edit)
    {items : List Json} {xs : List α} (made : (items.mapM fun item => inner.ofTree item) = .ok xs) :
    Json.sortItems (xs.map fun x => inner.write x) =
      Json.sortItems ((Json.sortItems items).map edit) := by
  induction items generalizing xs with
  | nil =>
      cases made
      rfl
  | cons item items ih =>
      rw [List.mapM_cons, bind_eq_ok] at made
      obtain ⟨x, first, made⟩ := made
      obtain ⟨others, later, same⟩ := bind_eq_ok.1 made
      cases same
      rw [List.map_cons, Json.sortItems, passes item x first, ih later]
      rfl

theorem passesOn_list {inner : Shape α} {edit : Json → Json} (passes : inner.PassesOn edit) :
    (Shape.list inner).PassesOn (Json.onItems edit) := by
  intro tree xs made
  cases tree with
  | array items => exact congrArg Json.array (sortItems_of_mapM passes made)
  | _ => cases made

theorem passesOn_list_id {inner : Shape α} (passes : inner.PassesOn id) :
    (Shape.list inner).PassesOn id := by
  have same : Json.onItems id = id := by
    funext tree
    cases tree <;> simp [Json.onItems]
  rw [← same]
  exact passesOn_list passes

end Shape

/-! ## Fields -/

/-- What becomes of the value of a key, if it has one, when it belongs to a field of this kind. -/
def Presence.PassesOn {α : Type} (presence : Presence α) (shape : Shape α)
    (change : Option Json → Option Json) : Prop :=
  ∀ (tree? : Option Json) (slot : Option α) (a : α),
    tree?.map (fun tree => shape.ofTree tree) = slot.map .ok →
    (slot <|> presence.default?) = some a →
    (if presence.leavesOut a then none else some (shape.write a)).map sort =
      (change (tree?.map sort)).map sort

namespace Presence

variable {α : Type} {shape : Shape α}

theorem told_cases {tree? : Option Json} {slot : Option α}
    (told : tree?.map (fun tree => shape.ofTree tree) = slot.map .ok) :
    (tree? = none ∧ slot = none) ∨
      ∃ tree a, tree? = some tree ∧ slot = some a ∧ shape.ofTree tree = .ok a := by
  cases tree? with
  | none =>
      cases slot with
      | none => exact Or.inl ⟨rfl, rfl⟩
      | some a => cases told
  | some tree =>
      cases slot with
      | none => cases told
      | some a => exact Or.inr ⟨tree, a, rfl, rfl, Option.some.inj told⟩

theorem passesOn_required {edit : Json → Json} (passes : shape.PassesOn edit) :
    Presence.required.PassesOn shape (Option.map edit) := by
  intro tree? slot a told known
  rcases told_cases told with ⟨rfl, rfl⟩ | ⟨tree, b, rfl, rfl, made⟩
  · cases known
  · cases known
    exact congrArg some (passes tree a made)

theorem passesOn_filled {edit : Json → Json} {d : α} {filling : Json}
    (passes : shape.PassesOn edit) (filled : (shape.write d).sort = filling.sort) :
    (Presence.filled d).PassesOn shape fun v => some ((v.map edit).getD filling) := by
  intro tree? slot a told known
  rcases told_cases told with ⟨rfl, rfl⟩ | ⟨tree, b, rfl, rfl, made⟩
  · cases known
    exact congrArg some filled
  · cases known
    exact congrArg some (passes tree a made)

theorem passesOn_optional (passes : shape.PassesOn id) :
    Presence.optional.PassesOn (.optional shape) (Option.filter (· ≠ .null)) := by
  intro tree? slot a told known
  rcases told_cases told with ⟨rfl, rfl⟩ | ⟨tree, b, rfl, rfl, made⟩
  · cases known
    rfl
  · cases known
    by_cases isNull : tree = .null
    · subst isNull
      cases made
      rfl
    · have inside : some <$> shape.ofTree tree = .ok a := by
        cases tree with
        | null => exact absurd rfl isNull
        | _ => exact made
      have visible : tree.sort ≠ .null := by
        cases tree with
        | null => exact absurd rfl isNull
        | _ => simp [sort]
      obtain ⟨x, taken, rfl⟩ := map_eq_ok.1 inside
      have same := passes tree x taken
      simpa [optional, leavesOut, Shape.write, Option.filter, visible] using same

theorem passesOn_nonemptyText :
    nonemptyText.PassesOn .text (Option.filter (· ≠ .string "")) := by
  intro tree? slot s told known
  rcases told_cases told with ⟨rfl, rfl⟩ | ⟨tree, b, rfl, rfl, made⟩
  · cases known
    rfl
  · cases known
    cases tree with
    | string t =>
        cases made
        by_cases blank : s = ""
        · subst blank
          rfl
        · simp [nonemptyText, leavesOut, Shape.write, Option.filter, sort, blank]
    | _ => cases made

end Presence

namespace Fields

variable {α β : Type}

/-- An edit of objects does to each known key what becomes of its value. -/
def PassesOn (edit : List (String × Json) → List (String × Json)) :
    {α : Type} → Fields α → Prop
  | _, .nil => True
  | _, .cons key presence shape rest =>
      (∃ change, presence.PassesOn shape change ∧ ∀ ms : List (String × Json),
        (ms.map Prod.fst).Nodup → latest key (edit ms) = change (latest key ms)) ∧
        rest.PassesOn edit

section Kinds

variable {edit : List (String × Json) → List (String × Json)} {key : String} {shape : Shape α}
  {rest : Fields β}

theorem passesOn_field {change : Json → Json} (passes : shape.PassesOn change)
    (changed : ∀ ms : List (String × Json), (ms.map Prod.fst).Nodup →
      latest key (edit ms) = (latest key ms).map change)
    (later : rest.PassesOn edit) : (field key shape rest).PassesOn edit :=
  ⟨⟨_, Presence.passesOn_required passes, changed⟩, later⟩

theorem passesOn_fieldOr {change : Json → Json} {d : α} {filling : Json}
    (passes : shape.PassesOn change) (filled : (shape.write d).sort = filling.sort)
    (changed : ∀ ms : List (String × Json), (ms.map Prod.fst).Nodup →
      latest key (edit ms) = some (((latest key ms).map change).getD filling))
    (later : rest.PassesOn edit) : (fieldOr key d shape rest).PassesOn edit :=
  ⟨⟨_, Presence.passesOn_filled passes filled, changed⟩, later⟩

theorem passesOn_optional (passes : shape.PassesOn id)
    (changed : ∀ ms : List (String × Json), (ms.map Prod.fst).Nodup →
      latest key (edit ms) = (latest key ms).filter (· ≠ .null))
    (later : rest.PassesOn edit) : (optional key shape rest).PassesOn edit :=
  ⟨⟨_, Presence.passesOn_optional passes, changed⟩, later⟩

theorem passesOn_nonemptyText {rest : Fields β}
    (changed : ∀ ms : List (String × Json), (ms.map Prod.fst).Nodup →
      latest key (edit ms) = (latest key ms).filter (· ≠ .string ""))
    (later : rest.PassesOn edit) :
    (Fields.cons key Presence.nonemptyText .text rest).PassesOn edit :=
  ⟨⟨_, Presence.passesOn_nonemptyText, changed⟩, later⟩

end Kinds

/-! ## What the slots hold -/

/-- Each slot holds what is made of the value of its key, and nothing if the key has none. -/
def Told : {α : Type} → (fields : Fields α) → fields.Slots → List (String × Json) → Prop
  | _, .nil, _, _ => True
  | _, .cons key _ shape rest, all, entries =>
      (latest key entries).map (fun tree => shape.ofTree tree) = all.1.map .ok ∧
        rest.Told all.2 entries

theorem told_noSlots : {α : Type} → (fields : Fields α) → fields.Told fields.noSlots []
  | _, .nil => trivial
  | _, .cons _ _ _ rest => ⟨rfl, rest.told_noSlots⟩

theorem told_unknown {entry : String × Json} {entries : List (String × Json)} :
    {α : Type} → {fields : Fields α} → {all : fields.Slots} → fields.Told all entries →
      entry.1 ∉ fields.keys → fields.Told all (entries ++ [entry])
  | _, .nil, _, _, _ => trivial
  | _, .cons key _ _ rest, _, told, unknown => by
      rw [keys, List.mem_cons, not_or] at unknown
      refine ⟨?_, told_unknown told.2 unknown.2⟩
      simpa [unknown.1] using told.1

theorem told_takeMember {name : String} {tree : Json} {entries : List (String × Json)} :
    {α : Type} → {fields : Fields α} → fields.Sound → {all next : fields.Slots} →
      fields.Told all entries → name ∈ fields.keys → fields.takeMember name tree all = .ok next →
      fields.Told next (entries ++ [(name, tree)])
  | _, .nil, _, _, _, _, known, _ => by cases known
  | _, .cons key presence shape rest, sound, all, next, told, known, taken => by
      obtain ⟨slot, all⟩ := all
      have taken := (takeMember_cons name tree slot all).symm.trans taken
      by_cases same : name = key
      · subst same
        rw [if_pos rfl] at taken
        cases slot with
        | some a => cases taken
        | none =>
            -- The slot was empty, so no member met before has this key.
            rw [Option.isSome_none, if_neg Bool.false_ne_true] at taken
            obtain ⟨a, made, done⟩ := bind_eq_ok.1 taken
            cases done
            refine ⟨?_, told_unknown told.2 sound.1⟩
            simp [made, slots]
      · rw [if_neg same] at taken
        obtain ⟨others, later, done⟩ := bind_eq_ok.1 taken
        cases done
        have known := (List.mem_cons.1 known).resolve_left same
        refine ⟨?_, told_takeMember sound.2.2.2 told.2 known later⟩
        simpa [same, slots] using told.1

theorem told_take {fields : Fields α} (sound : fields.Sound) {all next : fields.Slots}
    {entry : String × Json} {entries : List (String × Json)} (told : fields.Told all entries)
    (taken : fields.take all entry = .ok next) : fields.Told next (entries ++ [entry]) := by
  rw [take] at taken
  split at taken
  · next known => exact told_takeMember sound told (List.contains_iff_mem.1 known) taken
  · next unknown =>
      cases taken
      exact told_unknown told fun known => unknown (List.contains_iff_mem.2 known)

/-- What the slots hold is true of the members met so far, whatever members come next. -/
theorem told_foldlM {fields : Fields α} (sound : fields.Sound) {all final : fields.Slots}
    {met entries : List (String × Json)} (told : fields.Told all met)
    (taken : entries.foldlM fields.take all = .ok final) :
    fields.Told final (met ++ entries) := by
  induction entries generalizing all met with
  | nil =>
      cases taken
      simpa using told
  | cons entry entries ih =>
      rw [List.foldlM_cons] at taken
      obtain ⟨next, step, taken⟩ := bind_eq_ok.1 taken
      have later := ih (told_take sound told step) taken
      rwa [List.append_assoc] at later

/-! ## Objects -/

theorem latest_write_unknown (fields : Fields α) (a : α) {key : String}
    (unknown : key ∉ fields.keys) : latest key (fields.write a) = none := by
  rw [Json.latest_eq_none_iff]
  rintro entry member rfl
  exact unknown (fields.keys_write a entry member)

theorem latest_write {edit : List (String × Json) → List (String × Json)}
    {entries ms : List (String × Json)} (distinct : (ms.map Prod.fst).Nodup) :
    {α : Type} → {fields : Fields α} → fields.Sound → fields.PassesOn edit →
      {all : fields.Slots} → {a : α} → fields.Told all entries → fields.complete all = .ok a →
      (∀ key ∈ fields.keys, latest key ms = (latest key entries).map sort) →
      ∀ key ∈ fields.keys, (latest key (fields.write a)).map sort = (latest key (edit ms)).map sort
  | _, .nil, _, _, _, _, _, _, _, _, known => by cases known
  | _, .cons name presence shape rest, sound, pass, all, a, told, completed, agree, key,
      known => by
      obtain ⟨⟨change, passes, changed⟩, laterPass⟩ := pass
      obtain ⟨slot, all⟩ := all
      have completed := (complete_eq slot all).symm.trans completed
      cases present : slot <|> presence.default? with
      | none =>
          rw [present] at completed
          cases completed
      | some x =>
          rw [present] at completed
          obtain ⟨b, done, same⟩ := bind_eq_ok.1 completed
          cases same
          by_cases here : key = name
          · subst here
            have absent := rest.latest_write_unknown b sound.1
            have written : latest key ((Fields.cons key presence shape rest).write (x, b)) =
                if presence.leavesOut x then none else some (shape.write x) := by
              rw [write]
              split <;> simp [absent]
            rw [written, changed ms distinct, agree key List.mem_cons_self]
            exact passes _ slot x told.1 present
          · have written : latest key ((Fields.cons name presence shape rest).write (x, b)) =
                latest key (rest.write b) := by
              rw [write]
              split
              · rfl
              · simp [Ne.symm here]
            rw [written]
            exact latest_write distinct sound.2.2.2 laterPass told.2 done
              (fun key member => agree key (List.mem_cons_of_mem _ member)) key
              ((List.mem_cons.1 known).resolve_left here)

end Fields

namespace Shape

variable {α : Type} {fields : Fields α} {edit : List (String × Json) → List (String × Json)}
  {entries : List (String × Json)}

/-- An object that keeps its unknown members is passed on as its fields are, with every other
key as it was. -/
theorem passesOn_extended {name : String} (sound : fields.Sound) (passes : fields.PassesOn edit)
    (others : ∀ key ∉ fields.keys, ∀ ms : List (String × Json), (ms.map Prod.fst).Nodup →
      latest key (edit ms) = latest key ms) :
    (Shape.extended name fields).PassesOn (Json.onMembers edit) := by
  intro tree out made
  cases tree with
  | object entries =>
      obtain ⟨all, taken, made⟩ := bind_eq_ok.1 made
      obtain ⟨a, completed, same⟩ := bind_eq_ok.1 made
      cases same
      have told := Fields.told_foldlM sound fields.told_noSlots taken
      have distinct := Json.nodup_of_membersSorted (Json.membersSorted_sortMembers entries)
      refine congrArg Json.object (Json.sortMembers_eq fun key => ?_)
      have extra : latest key (Members.ofEntries
          (entries.filter fun entry => !fields.keys.contains entry.1)).entries =
          if key ∈ fields.keys then none else (latest key entries).map sort := by
        have only := Json.latest_filter_key (fun k => !fields.keys.contains k) entries key
        rw [Members.ofEntries, Json.latest_sortMembers, only]
        by_cases known : key ∈ fields.keys <;> simp [known]
      -- A key is a field's or kept, never both, so one half of what is written has it at most.
      rw [Json.latest_append, extra]
      by_cases known : key ∈ fields.keys
      · rw [if_pos known, Option.none_or]
        exact Fields.latest_write distinct sound passes told completed
          (fun _ _ => Json.latest_sortMembers _ _) key known
      · rw [if_neg known, fields.latest_write_unknown a known, Option.or_none,
          others key known _ distinct, Json.latest_sortMembers]
  | _ => cases made

/-- An object that drops its unknown members is passed on as if it had only had the known ones. -/
theorem write_record {name : String} {positional : Bool} (sound : fields.Sound)
    (passes : fields.PassesOn edit)
    (others : ∀ key ∉ fields.keys, ∀ ms : List (String × Json), (ms.map Prod.fst).Nodup →
      latest key (edit ms) = latest key ms) {a : α}
    (made : (Shape.record name positional fields).ofTree (.object entries) = .ok a) :
    ((Shape.record name positional fields).write a).sort =
      (Json.onMembers edit
        (.object (Json.restrict fields.keys (Json.sortMembers entries)))).sort := by
  obtain ⟨all, taken, completed⟩ := bind_eq_ok.1 made
  have told := Fields.told_foldlM sound fields.told_noSlots taken
  have sorted := Json.nodup_of_membersSorted (Json.membersSorted_sortMembers entries)
  have distinct := Json.nodup_restrict fields.keys sorted
  refine congrArg Json.object (Json.sortMembers_eq fun key => ?_)
  by_cases known : key ∈ fields.keys
  · refine Fields.latest_write distinct sound passes told completed (fun key known => ?_) key known
    rw [Json.latest_restrict, if_pos known, Json.latest_sortMembers]
    rfl
  · rw [fields.latest_write_unknown a known, others key known _ distinct, Json.latest_restrict,
      if_neg known]

end Shape

/-! ## Documents -/

namespace Shape

variable {α : Type} {shape : Shape α} {text : String} {a : α}

/-- A document has a value, and what is written for it has the edited value. -/
theorem PassesOn.document {edit : Json → Json} (passes : shape.PassesOn edit)
    (retains : shape.Retains) (sound : shape.Sound) (enough : shape.floor ≤ Json.maxLevels)
    (read : shape.read text = .ok a) :
    ∃ value, FreeForm.read text = .ok value ∧
      FreeForm.ofTree (shape.write a) = .ofTree (edit value.tree) ∧
      ((shape.write a).Settled →
        FreeForm.read (shape.render a) = .ok (.ofTree (edit value.tree))) := by
  obtain ⟨tree, treeRead, made⟩ := exists_tree_of_read retains read
  have written : FreeForm.ofTree (shape.write a) = .ofTree (edit tree.sort) :=
    FreeForm.ofTree_eq (passes tree a made)
  refine ⟨.ofTree tree, ?_, written, fun settled => ?_⟩
  · rw [FreeForm.read, treeRead]
    rfl
  · rw [read_value_render sound enough read settled, written]
    rfl

end Shape

end HolderBond
