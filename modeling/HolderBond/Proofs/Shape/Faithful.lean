import HolderBond.Shape.Tree

/-!
# Values that their trees stand for

A tree loses what a value holds in two cases only: a present value that is written as null, and
a kept member that has the name of a known field.  Every other value is what its tree stands
for, in a shape that has each key once and whose defaults are themselves of this kind.
-/

set_option autoImplicit false

namespace HolderBond

open Json (Error)

mutual

/-- Whether nothing of a value is lost in its tree. -/
def Shape.Faithful : {α : Type} → Shape α → α → Prop
  | _, .value, _ => True
  | _, .text, _ => True
  | _, .flag, _ => True
  | _, .natural _, _ => True
  | _, .written _, _ => True
  | _, .choice _, _ => True
  | _, .optional inner, a =>
      match a with
      | none => True
      | some a => inner.write a ≠ .null ∧ inner.Faithful a
  | _, .list inner, xs => ∀ x ∈ xs, inner.Faithful x
  | _, .members, _ => True
  | _, .record _ _ fields, a => fields.Faithful a
  | _, .extended _ fields, a =>
      fields.Faithful a.1 ∧ ∀ entry ∈ a.2.entries, entry.1 ∉ fields.keys
  | _, .via inner c, b => inner.Faithful (c.view b)

def Fields.Faithful : {α : Type} → Fields α → α → Prop
  | _, .nil, _ => True
  | _, .cons _ _ shape rest, a => shape.Faithful a.1 ∧ rest.Faithful a.2

end

mutual

/-- Whether a shape has every key of an object once, and defaults that are not lost. -/
def Shape.Sound : {α : Type} → Shape α → Prop
  | _, .value => True
  | _, .text => True
  | _, .flag => True
  | _, .natural _ => True
  | _, .written _ => True
  | _, .choice _ => True
  | _, .optional inner => inner.Sound
  | _, .list inner => inner.Sound
  | _, .members => True
  | _, .record _ _ fields => fields.Sound
  | _, .extended _ fields => fields.Sound
  | _, .via inner _ => inner.Sound

def Fields.Sound : {α : Type} → Fields α → Prop
  | _, .nil => True
  | _, .cons key presence shape rest =>
      key ∉ rest.keys ∧ (∀ d, presence.default? = some d → shape.Faithful d) ∧ shape.Sound ∧
        rest.Sound

end

/-! ## Records field by field -/

namespace Fields

section Pieces

variable {α β : Type} {key : String} {shape : Shape α} {rest : Fields β}

@[simp] theorem keys_field : (field key shape rest).keys = key :: rest.keys := rfl

@[simp] theorem keys_fieldOr {d : α} : (fieldOr key d shape rest).keys = key :: rest.keys := rfl

@[simp] theorem keys_optional : (optional key shape rest).keys = key :: rest.keys := rfl

@[simp] theorem sound_field :
    (field key shape rest).Sound ↔ key ∉ rest.keys ∧ shape.Sound ∧ rest.Sound := by
  simp [field, Sound, Presence.default?]

@[simp] theorem sound_fieldOr {d : α} :
    (fieldOr key d shape rest).Sound ↔
      key ∉ rest.keys ∧ shape.Faithful d ∧ shape.Sound ∧ rest.Sound := by
  simp [fieldOr, Sound, Presence.default?]

@[simp] theorem sound_optional :
    (optional key shape rest).Sound ↔ key ∉ rest.keys ∧ shape.Sound ∧ rest.Sound := by
  simp [optional, Sound, Shape.Sound, Presence.default?, Presence.optional, Shape.Faithful]

@[simp] theorem faithful_field {a : α × β} :
    (field key shape rest).Faithful a ↔ shape.Faithful a.1 ∧ rest.Faithful a.2 :=
  Iff.rfl

@[simp] theorem faithful_fieldOr {d : α} {a : α × β} :
    (fieldOr key d shape rest).Faithful a ↔ shape.Faithful a.1 ∧ rest.Faithful a.2 :=
  Iff.rfl

@[simp] theorem faithful_optional {a : Option α × β} :
    (optional key shape rest).Faithful a ↔
      (∀ x, a.1 = some x → shape.write x ≠ .null ∧ shape.Faithful x) ∧ rest.Faithful a.2 := by
  obtain ⟨x, b⟩ := a
  cases x with
  | none => simp [optional, Faithful, Shape.Faithful]
  | some x => simp [optional, Faithful, Shape.Faithful]

end Pieces

end Fields

/-! ## Slots -/

namespace Fields

section Slots

variable {α β : Type} {key : String} {presence : Presence α} {shape : Shape α} {rest : Fields β}

def slots (slot : Option α) (others : rest.Slots) : (Fields.cons key presence shape rest).Slots :=
  (slot, others)

theorem noSlots_cons :
    (Fields.cons key presence shape rest).noSlots = slots none rest.noSlots :=
  rfl

theorem takeMember_cons (name : String) (tree : Json) (slot : Option α) (others : rest.Slots) :
    (Fields.cons key presence shape rest).takeMember name tree (slots slot others) =
      if name = key then
        if slot.isSome then .error (.duplicateField key)
        else shape.ofTree tree >>= fun a => pure (slots (some a) others)
      else rest.takeMember name tree others >>= fun others => pure (slots slot others) :=
  rfl

theorem takeMember_same (tree : Json) (others : rest.Slots) :
    (Fields.cons key presence shape rest).takeMember key tree (slots none others) =
      (fun a => slots (some a) others) <$> shape.ofTree tree := by
  rw [takeMember_cons, if_pos rfl]
  exact bind_pure_comp _ _

theorem takeMember_other {name : String} (other : name ≠ key) (tree : Json) (slot : Option α)
    (others : rest.Slots) :
    (Fields.cons key presence shape rest).takeMember name tree (slots slot others) =
      slots slot <$> rest.takeMember name tree others := by
  rw [takeMember_cons, if_neg other]
  exact bind_pure_comp _ _

theorem foldlM_takeMember_other (slot : Option α) (entries : List (String × Json))
    (other : ∀ entry ∈ entries, entry.1 ≠ key) (others : rest.Slots) :
    entries.foldlM (fun all entry =>
        (Fields.cons key presence shape rest).takeMember entry.1 entry.2 all) (slots slot others) =
      slots slot <$>
        entries.foldlM (fun all entry => rest.takeMember entry.1 entry.2 all) others := by
  induction entries generalizing others with
  | nil => rfl
  | cons entry entries ih =>
      have later : ∀ entry ∈ entries, entry.1 ≠ key := fun entry member =>
        other entry (List.mem_cons_of_mem _ member)
      rw [List.foldlM_cons, List.foldlM_cons,
        takeMember_other (other entry List.mem_cons_self) entry.2 slot others]
      cases rest.takeMember entry.1 entry.2 others with
      | error e => rfl
      | ok others => exact ih later others

theorem complete_eq (slot : Option α) (others : rest.Slots) :
    (Fields.cons key presence shape rest).complete (slots slot others) =
      match slot <|> presence.default? with
      | none => .error (.missingField key)
      | some a => rest.complete others >>= fun b => pure (a, b) :=
  rfl

theorem complete_cons (slot : Option α) (others : rest.Slots) {a : α}
    (known : (slot <|> presence.default?) = some a) :
    (Fields.cons key presence shape rest).complete (slots slot others) =
      (fun b => (a, b)) <$> rest.complete others := by
  rw [complete_eq, known]
  exact bind_pure_comp _ _

end Slots

/-! ## Records -/

/-- The slots once the written members of a record were taken. -/
def filled : {α : Type} → (fields : Fields α) → α → fields.Slots
  | _, .nil, _ => ()
  | _, .cons _ presence _ rest, a =>
      slots (if presence.leavesOut a.1 then none else some a.1) (rest.filled a.2)

theorem keys_write : {α : Type} → (fields : Fields α) → (a : α) →
    ∀ entry ∈ fields.write a, entry.1 ∈ fields.keys
  | _, .nil, _ => by simp [write]
  | _, .cons key presence shape rest, a => by
      intro entry member
      simp only [write] at member
      simp only [keys, List.mem_cons]
      split at member
      · exact Or.inr (rest.keys_write a.2 entry member)
      · rcases List.mem_cons.1 member with rfl | later
        · exact Or.inl rfl
        · exact Or.inr (rest.keys_write a.2 entry later)

theorem default?_of_leavesOut {α : Type} {presence : Presence α} {a : α}
    (leftOut : presence.leavesOut a = true) : presence.default? = some a := by
  cases presence with
  | required => cases leftOut
  | filled d => cases leftOut
  | elided d isDefault law => rw [(law a).1 leftOut]; rfl

theorem complete_filled : {α : Type} → (fields : Fields α) → (a : α) →
    fields.complete (fields.filled a) = .ok a
  | _, .nil, _ => rfl
  | _, .cons key presence shape rest, a => by
      have known : ((if presence.leavesOut a.1 then none else some a.1) <|>
          presence.default?) = some a.1 := by
        split
        · next leftOut => exact default?_of_leavesOut leftOut
        · rfl
      rw [filled, complete_cons _ _ known, rest.complete_filled a.2]
      rfl

end Fields

/-! ## Reading what was written -/

theorem mapM_map_ok {α : Type} {f : α → Json} {g : Json → Except Error α} (xs : List α)
    (back : ∀ x ∈ xs, g (f x) = .ok x) : (xs.map f).mapM g = .ok xs := by
  induction xs with
  | nil => rfl
  | cons x xs ih =>
      have later := ih fun y member => back y (List.mem_cons_of_mem x member)
      rw [List.map_cons, List.mapM_cons, back x List.mem_cons_self]
      simp only [later]
      rfl

namespace Fields

variable {α : Type} (fields : Fields α)

def take (all : fields.Slots) (entry : String × Json) : Except Error fields.Slots :=
  if fields.keys.contains entry.1 then fields.takeMember entry.1 entry.2 all else return all

theorem foldlM_known (entries : List (String × Json))
    (known : ∀ entry ∈ entries, entry.1 ∈ fields.keys) (all : fields.Slots) :
    entries.foldlM fields.take all =
      entries.foldlM (fun all entry => fields.takeMember entry.1 entry.2 all) all := by
  induction entries generalizing all with
  | nil => rfl
  | cons entry entries ih =>
      have here : fields.take all entry = fields.takeMember entry.1 entry.2 all :=
        if_pos (List.contains_iff_mem.2 (known entry List.mem_cons_self))
      rw [List.foldlM_cons, List.foldlM_cons, here]
      congr 1
      funext next
      exact ih (fun entry member => known entry (List.mem_cons_of_mem _ member)) next

theorem foldlM_unknown (entries : List (String × Json))
    (unknown : ∀ entry ∈ entries, entry.1 ∉ fields.keys) (all : fields.Slots) :
    entries.foldlM fields.take all = .ok all := by
  induction entries with
  | nil => rfl
  | cons entry entries ih =>
      have here : fields.take all entry = .ok all := by
        refine if_neg fun contained => ?_
        exact unknown entry List.mem_cons_self (List.contains_iff_mem.1 contained)
      rw [List.foldlM_cons, here]
      exact ih fun entry member => unknown entry (List.mem_cons_of_mem _ member)

end Fields

mutual

/-- A value is what its tree stands for. -/
theorem Shape.ofTree_write : {α : Type} → (shape : Shape α) → shape.Sound → (a : α) →
    shape.Faithful a → shape.ofTree (shape.write a) = .ok a
  | _, .value, _, v, _ => by simp [Shape.ofTree, Shape.write]
  | _, .text, _, _, _ => rfl
  | _, .flag, _, _, _ => rfl
  | _, .natural u, _, n, _ => by
      have small := u.toNat_lt n
      have back : (UInt64.ofNat (u.toNat n)).toNat = u.toNat n := UInt64.toNat_ofNat_of_lt small
      simp [Shape.ofTree, Shape.write, Unsigned.ofNumber, back, u.ofNat?_toNat]
  | _, .written t, _, a, _ => by
      simp [Shape.ofTree, Shape.write, Json.asWritten, t.read_write]
  | _, .choice c, _, a, _ => by
      simp [Shape.ofTree, Shape.write, Json.asChoice, Choice.ofName, c.ofName?_name]
  | _, .optional inner, sound, none, _ => rfl
  | _, .optional inner, sound, some a, faithful => by
      obtain ⟨visible, faithful⟩ := faithful
      have back := inner.ofTree_write sound a faithful
      simp only [Shape.write, Shape.ofTree, back]
      rfl
  | _, .list inner, sound, xs, faithful => by
      simp only [Shape.write, Shape.ofTree]
      exact mapM_map_ok xs fun x member => inner.ofTree_write sound x (faithful x member)
  | _, .members, _, m, _ => by simp [Shape.ofTree, Shape.write]
  | _, .record name positional fields, sound, a, faithful => by
      have taken := fields.foldlM_write sound a faithful
      rw [← fields.foldlM_known _ (fields.keys_write a)] at taken
      have step : (Shape.record name positional fields).ofTree
          ((Shape.record name positional fields).write a) =
          (fields.write a).foldlM fields.take fields.noSlots >>= fields.complete := rfl
      rw [step, taken]
      exact fields.complete_filled a
  | _, .extended name fields, sound, a, faithful => by
      obtain ⟨faithful, others⟩ := faithful
      have taken := fields.foldlM_write sound a.1 faithful
      rw [← fields.foldlM_known _ (fields.keys_write a.1)] at taken
      have step : (Shape.extended name fields).ofTree ((Shape.extended name fields).write a) =
          (fields.write a.1 ++ a.2.entries).foldlM fields.take fields.noSlots >>= fun all =>
            fields.complete all >>= fun b => pure (b, Members.ofEntries
              ((fields.write a.1 ++ a.2.entries).filter fun entry =>
                !fields.keys.contains entry.1)) := rfl
      have known : (fields.write a.1).filter (fun entry => !fields.keys.contains entry.1) = [] := by
        rw [List.filter_eq_nil_iff]
        intro entry member
        simpa using fields.keys_write a.1 entry member
      have unknown : a.2.entries.filter (fun entry => !fields.keys.contains entry.1) =
          a.2.entries := by
        rw [List.filter_eq_self]
        intro entry member
        simpa using others entry member
      rw [step, List.filter_append, known, unknown, List.nil_append, Members.ofEntries_entries,
        List.foldlM_append, taken]
      have kept := fields.foldlM_unknown a.2.entries others (fields.filled a.1)
      have complete := fields.complete_filled a.1
      simp only [bind, Except.bind, kept, complete]
      rfl
  | _, .via inner c, sound, b, faithful => by
      have back := inner.ofTree_write sound (c.view b) faithful
      simp only [Shape.write, Shape.ofTree, back]
      exact congrArg Except.ok (c.make_view b)

theorem Fields.foldlM_write : {α : Type} → (fields : Fields α) → fields.Sound → (a : α) →
    fields.Faithful a →
    (fields.write a).foldlM (fun all entry => fields.takeMember entry.1 entry.2 all)
      fields.noSlots = .ok (fields.filled a)
  | _, .nil, _, _, _ => rfl
  | _, .cons key presence shape rest, sound, a, faithful => by
      obtain ⟨once, -, shapeSound, restSound⟩ := sound
      obtain ⟨shapeFaithful, restFaithful⟩ := faithful
      have later := rest.foldlM_write restSound a.2 restFaithful
      have other : ∀ entry ∈ rest.write a.2, entry.1 ≠ key := by
        rintro entry member rfl
        exact once (rest.keys_write a.2 entry member)
      rw [Fields.filled, Fields.noSlots_cons]
      simp only [Fields.write]
      split
      · rw [Fields.foldlM_takeMember_other none _ other, later]
        rfl
      · rw [List.foldlM_cons, Fields.takeMember_same,
          shape.ofTree_write shapeSound a.1 shapeFaithful]
        refine (Fields.foldlM_takeMember_other (some a.1) _ other rest.noSlots).trans ?_
        rw [later]
        rfl

end

end HolderBond
