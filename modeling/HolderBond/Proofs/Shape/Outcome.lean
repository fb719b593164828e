import HolderBond.Proofs.Json.Levels
import HolderBond.Proofs.Shape.Agreement

/-!
# What is read can be written

Whatever a shape reads from a text is faithful to its tree, and the tree has no more levels than
the text was allowed, or than the defaults of absent fields bring with them.
-/

set_option autoImplicit false

namespace HolderBond

open HolderBond.Json (Scan Input Error)
open Json.Scan

mutual

/-- The levels that the values of a shape may have however few a text was allowed. -/
def Shape.floor : {α : Type} → Shape α → Nat
  | _, .value => 0
  | _, .text => 0
  | _, .flag => 0
  | _, .natural _ => 0
  | _, .written _ => 0
  | _, .choice _ => 0
  | _, .optional inner => inner.floor
  | _, .list inner => inner.floor + 1
  | _, .members => 0
  | _, .record _ _ fields => fields.floor + 1
  | _, .extended _ fields => fields.floor + 1
  | _, .via inner _ => inner.floor

def Fields.floor : {α : Type} → Fields α → Nat
  | _, .nil => 0
  | _, .cons _ presence shape rest =>
      max (presence.default?.elim 0 fun d => (shape.write d).levels)
        (max shape.floor rest.floor)

end

/-- A value that its tree does not lose, the tree having at most some number of levels. -/
def Shape.Within {α : Type} (shape : Shape α) (most : Nat) (a : α) : Prop :=
  shape.Faithful a ∧ (shape.write a).levels ≤ most

def Fields.Within {α : Type} (fields : Fields α) (most : Nat) (a : α) : Prop :=
  fields.Faithful a ∧ ∀ entry ∈ fields.write a, entry.2.levels ≤ most

/-! ## Values that are not null -/

theorem Shape.optional_cases {α : Type} {inner : Shape α} {levels : Nat} {input rest : Input}
    {a : Option α} (read : ((Shape.optional inner).scan levels).on input = some (a, rest)) :
    (bare input = letters ['n', 'u', 'l', 'l'] ++ rest ∧ a = none) ∨
      ((bare input).head? ≠ some (.char 'n') ∧
        ∃ b, a = some b ∧ (inner.scan levels).on (bare input) = some (b, rest)) := by
  rw [Shape.scan, on_bind, on_peek, Option.bind_some] at read
  dsimp only at read
  split at read
  · exact Or.inl ((on_word_pure _ _ _).1 read)
  · next noNull =>
      rw [on_map, Option.map_eq_some_iff] at read
      obtain ⟨⟨b, left⟩, read, same⟩ := read
      cases same
      exact Or.inr ⟨noNull, b, rfl, read⟩

/-- Null is written only for what was read from null. -/
theorem Shape.write_ne_null : {α : Type} → (shape : Shape α) → {levels : Nat} →
    {input rest : Input} → {a : α} → (shape.scan levels).on input = some (a, rest) →
    (bare input).head? ≠ some (.char 'n') → shape.write a ≠ .null
  | _, .value, levels, input, rest, a, read, solid => by
      rw [Shape.scan, on_map, Option.map_eq_some_iff] at read
      obtain ⟨⟨tree, left⟩, read, same⟩ := read
      cases same
      have kind := (on_value_iff levels tree).1 read
      cases tree with
      | null => exact absurd (kind.null_iff.2 rfl) solid
      | _ => simp [Shape.write, FreeForm.ofTree, Json.sort]
  | _, .text, _, _, _, _, _, _ => by simp [Shape.write]
  | _, .flag, _, _, _, _, _, _ => by simp [Shape.write]
  | _, .natural _, _, _, _, _, _, _ => by simp [Shape.write]
  | _, .written _, _, _, _, _, _, _ => by simp [Shape.write]
  | _, .choice _, _, _, _, _, _, _ => by simp [Shape.write]
  | _, .optional inner, _, input, _, _, read, solid => by
      rcases Shape.optional_cases read with ⟨isNull, -⟩ | ⟨-, b, rfl, inside⟩
      · rw [isNull] at solid
        exact absurd rfl solid
      · refine inner.write_ne_null inside ?_
        rwa [bare_bare]
  | _, .list _, _, _, _, _, _, _ => by simp [Shape.write]
  | _, .members, _, _, _, _, _, _ => by simp [Shape.write]
  | _, .record _ _ _, _, _, _, _, _, _ => by simp [Shape.write]
  | _, .extended _ _, _, _, _, _, _, _ => by simp [Shape.write]
  | _, .via inner c, levels, input, rest, a, read, solid => by
      rw [Shape.scan, on_map, Option.map_eq_some_iff] at read
      obtain ⟨⟨a, left⟩, read, same⟩ := read
      cases same
      rw [Shape.write, c.view_make]
      exact inner.write_ne_null read solid

/-! ## Parts -/

namespace Json.Scan

variable {α : Type} {levels : Nat} {input rest : Input} {a : α}

theorem on_sequence_cases {expected : String} {inside : Nat → Scan α}
    (read : (sequence levels expected inside).on input = some (a, rest)) :
    ∃ deeper body, levels = deeper + 1 ∧ bare input = .char '[' :: body ∧
      (inside deeper).on body = some (a, rest) := by
  unfold sequence at read
  rw [on_bind, on_peek, Option.bind_some] at read
  dsimp only at read
  split at read
  · next start =>
      obtain ⟨body, start⟩ := List.head?_eq_some_iff.1 start
      cases levels with
      | zero => cases read
      | succ deeper =>
          rw [start] at read
          exact ⟨deeper, body, rfl, start, read⟩
  · rw [on_mismatch] at read
    cases read

theorem on_mapping_cases {expected : String} {inside : Nat → Scan α}
    (read : (mapping levels expected inside).on input = some (a, rest)) :
    ∃ deeper body, levels = deeper + 1 ∧ bare input = .char '\x7b' :: body ∧
      (inside deeper).on body = some (a, rest) := by
  unfold mapping at read
  rw [on_bind, on_peek, Option.bind_some] at read
  dsimp only at read
  split at read
  · next start =>
      obtain ⟨body, start⟩ := List.head?_eq_some_iff.1 start
      cases levels with
      | zero => cases read
      | succ deeper =>
          rw [start] at read
          exact ⟨deeper, body, rfl, start, read⟩
  · rw [on_mismatch] at read
    cases read

theorem on_ofExcept_iff {result : Except Error α} :
    (liftM result : Scan α).on input = some (a, rest) ↔ result = .ok a ∧ input = rest := by
  cases result <;> simp [Except.toOption]

theorem dropMember_cases {σ : Type} {state next : σ}
    (read : (dropMember state).on input = some (next, rest)) :
    ∃ body, bare input = .char ':' :: body ∧ skipAny.on body = some ((), rest) ∧
      next = state := by
  obtain ⟨⟨⟩, body, start, read⟩ := on_bind_eq_some.1 read
  obtain ⟨⟨⟩, left, passed, same⟩ := on_bind_eq_some.1 read
  cases same
  exact ⟨body, on_colon_iff.1 start, passed, rfl⟩

end Json.Scan

namespace Fields

section Records

variable {α β : Type} {most deeper : Nat}

theorem within_cons {key : String} {presence : Presence α} {shape : Shape α} {rest : Fields β}
    {a : α × β} (first : shape.Within most a.1) (others : rest.Within most a.2) :
    (Fields.cons key presence shape rest).Within most a := by
  refine ⟨⟨first.1, others.1⟩, fun entry member => ?_⟩
  rw [Fields.write] at member
  split at member
  · exact others.2 entry member
  · rcases List.mem_cons.1 member with rfl | later
    · exact first.2
    · exact others.2 entry later

theorem within_default {key : String} {presence : Presence α} {shape : Shape α} {rest : Fields β}
    (sound : (Fields.cons key presence shape rest).Sound)
    (enough : (Fields.cons key presence shape rest).floor ≤ most) {d : α}
    (default : presence.default? = some d) : shape.Within most d := by
  obtain ⟨-, faithful, -, -⟩ := sound
  refine ⟨faithful d default, ?_⟩
  simp only [floor, default, Option.elim_some] at enough
  omega

def Kept (most : Nat) : {α : Type} → (fields : Fields α) → fields.Slots → Prop
  | _, .nil, _ => True
  | _, .cons _ _ shape rest, all =>
      (∀ a, all.1 = some a → shape.Within most a) ∧ rest.Kept most all.2

theorem kept_noSlots : {α : Type} → (fields : Fields α) → fields.Kept most fields.noSlots
  | _, .nil => trivial
  | _, .cons _ _ _ rest => ⟨(fun _ met => nomatch met), rest.kept_noSlots⟩

theorem within_complete : {α : Type} → (fields : Fields α) → fields.Sound →
    fields.floor ≤ most → {all : fields.Slots} → fields.Kept most all → {a : α} →
    fields.complete all = .ok a → fields.Within most a
  | _, .nil, _, _, _, _, _, _ => ⟨trivial, fun _ member => by cases member⟩
  | _, .cons key presence shape rest, sound, enough, all, kept, a, done => by
      obtain ⟨slot, others⟩ := all
      have done := (complete_eq slot others).symm.trans done
      cases known : slot <|> presence.default? with
      | none =>
          rw [known] at done
          cases done
      | some x =>
          rw [known] at done
          cases later : rest.complete others with
          | error e =>
              rw [later] at done
              cases done
          | ok b =>
              rw [later] at done
              cases done
              have restEnough : rest.floor ≤ most := by
                simp only [floor] at enough
                omega
              refine within_cons ?_ (rest.within_complete sound.2.2.2 restEnough kept.2 later)
              cases slot with
              | some y =>
                  cases known
                  exact kept.1 x rfl
              | none => exact within_default sound enough known

def MembersKept (fields : Fields α) (most deeper : Nat) : Prop :=
  ∀ name all next input rest, fields.Kept most all →
    (fields.scanMember deeper name all).on input = some (next, rest) → fields.Kept most next

def ItemsWithin (fields : Fields α) (most deeper : Nat) : Prop :=
  ∀ expected index input rest a,
    (fields.scanItems deeper expected index).on input = some (a, rest) → fields.Within most a

section Cons

variable {key : String} {presence : Presence α} {shape : Shape α} {others : Fields β}

/-- A member that is read is the value of the field, which had none before, or belongs to one of
the fields after it. -/
theorem scanMember_cases {name : String} {slot : Option α} {all : others.Slots}
    {next : (Fields.cons key presence shape others).Slots} {input rest : Input}
    (read : ((Fields.cons key presence shape others).scanMember deeper name (slots slot all)).on
      input = some (next, rest)) :
    (name = key ∧ ∃ body a, bare input = .char ':' :: body ∧
        (shape.scan deeper).on body = some (a, rest) ∧ next = slots (some a) all) ∨
      (name ≠ key ∧ ∃ later, (others.scanMember deeper name all).on input = some (later, rest) ∧
        next = slots slot later) := by
  rw [scanMember_cons] at read
  by_cases same : name = key
  · rw [if_pos same] at read
    cases slot with
    | some a => cases read
    | none =>
        rw [Option.isSome_none, if_neg Bool.false_ne_true, scanInto, on_bind,
          Option.bind_eq_some_iff] at read
        obtain ⟨⟨⟨⟩, body⟩, start, read⟩ := read
        obtain ⟨a, left, valueRead, done⟩ := on_bind_eq_some.1 read
        cases done
        exact Or.inl ⟨same, body, a, on_colon_iff.1 start, valueRead, rfl⟩
  · rw [if_neg same] at read
    obtain ⟨later, left, memberRead, done⟩ := on_bind_eq_some.1 read
    cases done
    exact Or.inr ⟨same, later, memberRead, rfl⟩

theorem membersKept_cons
    (first : ∀ input rest a, (shape.scan deeper).on input = some (a, rest) → shape.Within most a)
    (later : others.MembersKept most deeper) :
    (Fields.cons key presence shape others).MembersKept most deeper := by
  rintro name ⟨slot, all⟩ next input rest kept read
  rcases scanMember_cases read with ⟨-, body, a, -, valueRead, rfl⟩ | ⟨-, all', memberRead, rfl⟩
  · refine ⟨fun b met => ?_, kept.2⟩
    cases met
    exact first _ _ _ valueRead
  · exact ⟨kept.1, later _ _ _ _ _ kept.2 memberRead⟩

theorem itemsWithin_cons (sound : (Fields.cons key presence shape others).Sound)
    (enough : (Fields.cons key presence shape others).floor ≤ most)
    (first : ∀ input rest a, (shape.scan deeper).on input = some (a, rest) → shape.Within most a)
    (later : others.ItemsWithin most deeper) :
    (Fields.cons key presence shape others).ItemsWithin most deeper := by
  intro expected index input rest a read
  rw [scanItems_cons, Option.bind_eq_some_iff] at read
  obtain ⟨⟨goesOn, next⟩, -, read⟩ := read
  cases goesOn with
  | true =>
      rw [if_pos rfl, Option.bind_eq_some_iff] at read
      obtain ⟨⟨x, left⟩, itemRead, read⟩ := read
      rw [Option.map_eq_some_iff] at read
      obtain ⟨⟨b, last⟩, laterRead, same⟩ := read
      cases same
      exact within_cons (first _ _ _ itemRead) (later _ _ _ _ _ laterRead)
  | false =>
      rw [if_neg Bool.false_ne_true, Option.bind_eq_some_iff] at read
      obtain ⟨d, default, read⟩ := read
      rw [Option.map_eq_some_iff] at read
      obtain ⟨⟨b, last⟩, laterRead, same⟩ := read
      cases same
      exact within_cons (within_default sound enough default) (later _ _ _ _ _ laterRead)

end Cons

end Records

end Fields

/-! ## Shapes -/

namespace Shape

section Composite

variable {α : Type} {most levels : Nat} {input rest : Input}

theorem within_value {v : FreeForm} (allowed : levels ≤ most)
    (read : (Shape.value.scan levels).on input = some (v, rest)) : Shape.value.Within most v := by
  rw [Shape.scan, on_map, Option.map_eq_some_iff] at read
  obtain ⟨⟨tree, left⟩, read, same⟩ := read
  cases same
  refine ⟨trivial, ?_⟩
  calc (FreeForm.ofTree tree).tree.levels ≤ tree.levels := Json.levels_sort_le tree
    _ ≤ levels := levels_le_of_on_value levels read
    _ ≤ most := allowed

theorem within_optional {inner : Shape α} {a : Option α}
    (each : ∀ input rest a, (inner.scan levels).on input = some (a, rest) → inner.Within most a)
    (read : ((Shape.optional inner).scan levels).on input = some (a, rest)) :
    (Shape.optional inner).Within most a := by
  rcases optional_cases read with ⟨-, rfl⟩ | ⟨noNull, b, rfl, inside⟩
  · exact ⟨trivial, Nat.zero_le _⟩
  · have visible : inner.write b ≠ .null := by
      apply inner.write_ne_null inside
      rwa [bare_bare]
    have within := each _ _ _ inside
    exact ⟨⟨visible, within.1⟩, within.2⟩

theorem within_list {inner : Shape α} {xs : List α} (allowed : levels ≤ most + 1)
    (each : ∀ deeper, deeper ≤ most → ∀ input rest a,
      (inner.scan deeper).on input = some (a, rest) → inner.Within most a)
    (read : ((Shape.list inner).scan levels).on input = some (xs, rest)) :
    (Shape.list inner).Within (most + 1) xs := by
  obtain ⟨deeper, body, rfl, -, inside⟩ := on_sequence_cases read
  have all := forall_of_on_itemsWithin (inner.Within most)
    (each deeper (Nat.le_of_succ_le_succ allowed)) inside
  refine ⟨fun x member => (all x member).1, Nat.succ_le_succ (Json.itemsLevels_le_iff.2 ?_)⟩
  intro tree member
  obtain ⟨x, old, rfl⟩ := List.mem_map.1 member
  exact (all x old).2

theorem of_mem_entries (good : String → Prop) {reversed : List (String × Json)}
    (bounded : ∀ entry ∈ reversed, good entry.1 ∧ entry.2.levels ≤ most) :
    ∀ entry ∈ (Members.ofEntries reversed.reverse).entries,
      good entry.1 ∧ entry.2.levels ≤ most := by
  intro entry member
  obtain ⟨v, old, same⟩ := Json.exists_of_mem_sortMembers member
  obtain ⟨known, small⟩ := bounded _ (List.mem_reverse.1 old)
  refine ⟨known, ?_⟩
  rw [same]
  exact Nat.le_trans (Json.levels_sort_le v) small

theorem within_members {ms : Members} (allowed : levels ≤ most)
    (read : (Shape.members.scan levels).on input = some (ms, rest)) :
    Shape.members.Within most ms := by
  obtain ⟨deeper, body, rfl, -, inside⟩ := on_mapping_cases read
  obtain ⟨reversed, left, entriesRead, same⟩ := on_bind_eq_some.1 inside
  cases same
  have small : ∀ entry ∈ reversed, True ∧ entry.2.levels ≤ deeper := fun entry member =>
    ⟨trivial, levels_le_of_on_members (fun _ _ _ => levels_le_of_on_value deeper) entriesRead
      entry member⟩
  have bounded := Json.membersLevels_le_iff.2 fun entry member =>
    (of_mem_entries (fun _ => True) small entry member).2
  exact ⟨trivial, Nat.le_trans (Nat.succ_le_succ bounded) allowed⟩

theorem within_object {name : String} {positional : Bool} {fields : Fields α} {a : α}
    (within : fields.Within most a) :
    (Shape.record name positional fields).Within (most + 1) a :=
  ⟨within.1, Nat.succ_le_succ (Json.membersLevels_le_iff.2 within.2)⟩

theorem within_record {name : String} {positional : Bool} {fields : Fields α} {a : α}
    (sound : fields.Sound) (enough : fields.floor ≤ most) (allowed : levels ≤ most + 1)
    (member : ∀ deeper, deeper ≤ most → fields.MembersKept most deeper)
    (item : ∀ deeper, deeper ≤ most → fields.ItemsWithin most deeper)
    (read : ((Shape.record name positional fields).scan levels).on input = some (a, rest)) :
    (Shape.record name positional fields).Within (most + 1) a := by
  rw [Shape.scan, on_bind, on_peek, Option.bind_some] at read
  dsimp only at read
  apply within_object
  -- A record may stand in a text as an array, by position, or as an object, by name.
  split at read
  · rw [on_ite] at read
    split at read
    · obtain ⟨deeper, body, rfl, -, inside⟩ := on_sequence_cases read
      obtain ⟨b, left, itemsRead, inside⟩ := on_bind_eq_some.1 inside
      obtain ⟨⟨⟩, last, -, same⟩ := on_bind_eq_some.1 inside
      cases same
      exact item deeper (Nat.le_of_succ_le_succ allowed) _ _ _ _ _ itemsRead
    · rw [on_mismatch] at read
      cases read
  · obtain ⟨deeper, body, rfl, -, inside⟩ := on_mapping_cases read
    obtain ⟨all, left, membersRead, done⟩ := on_bind_eq_some.1 inside
    have kept : fields.Kept most all := by
      refine invariant_of_on_membersWithin (fields.Kept most) ?_ fields.kept_noSlots membersRead
      intro key state input rest next kept read
      rw [on_ite] at read
      split at read
      · exact member deeper (Nat.le_of_succ_le_succ allowed) _ _ _ _ _ kept read
      · obtain ⟨-, -, -, rfl⟩ := dropMember_cases read
        exact kept
    exact fields.within_complete sound enough kept (on_ofExcept_iff.1 done).1

theorem within_extended {name : String} {fields : Fields α} {a : α × Members}
    (sound : fields.Sound) (enough : fields.floor ≤ most) (allowed : levels ≤ most + 1)
    (member : ∀ deeper, deeper ≤ most → fields.MembersKept most deeper)
    (read : ((Shape.extended name fields).scan levels).on input = some (a, rest)) :
    (Shape.extended name fields).Within (most + 1) a := by
  obtain ⟨deeper, body, rfl, -, inside⟩ := on_mapping_cases read
  have less := Nat.le_of_succ_le_succ allowed
  obtain ⟨⟨all, reversed⟩, left, membersRead, done⟩ := on_bind_eq_some.1 inside
  -- Known fields and members that are kept are gathered in one pass, so one invariant covers both.
  have kept : fields.Kept most all ∧
      ∀ entry ∈ reversed, entry.1 ∉ fields.keys ∧ entry.2.levels ≤ most := by
    refine invariant_of_on_membersWithin
      (fun state : fields.Slots × List (String × Json) => fields.Kept most state.1 ∧
        ∀ entry ∈ state.2, entry.1 ∉ fields.keys ∧ entry.2.levels ≤ most)
      ?_ ⟨fields.kept_noSlots, by simp⟩ membersRead
    rintro key ⟨slots, seen⟩ input rest next ⟨kept, bounded⟩ read
    rw [on_ite] at read
    split at read
    · obtain ⟨slots, left, memberRead, same⟩ := on_bind_eq_some.1 read
      cases same
      exact ⟨member deeper less _ _ _ _ _ kept memberRead, bounded⟩
    · next unknown =>
        obtain ⟨seen, left, memberRead, same⟩ := on_bind_eq_some.1 read
        cases same
        obtain ⟨value, v, -, valueRead, rfl⟩ := keep_cases memberRead
        refine ⟨kept, fun entry member => ?_⟩
        rcases List.mem_cons.1 member with rfl | old
        · refine ⟨fun known => unknown (List.contains_iff_mem.2 known), ?_⟩
          exact Nat.le_trans (levels_le_of_on_value deeper valueRead) less
        · exact bounded entry old
  have done := (on_bind _ _ _).symm.trans done
  rw [Option.bind_eq_some_iff] at done
  obtain ⟨⟨b, last⟩, complete, same⟩ := done
  cases same
  have within := fields.within_complete sound enough kept.1 (on_ofExcept_iff.1 complete).1
  have extras := of_mem_entries (· ∉ fields.keys) kept.2
  refine ⟨⟨within.1, fun entry member => (extras entry member).1⟩, Nat.succ_le_succ ?_⟩
  rw [Json.membersLevels_le_iff]
  intro entry member
  rcases List.mem_append.1 member with known | extra
  · exact within.2 entry known
  · exact (extras entry extra).2

end Composite

end Shape

mutual

/-- What a shape reads is faithful, and no deeper than the text was allowed to be. -/
theorem Shape.scan_within : {α : Type} → (shape : Shape α) → shape.Sound → {most levels : Nat} →
    shape.floor ≤ most → levels ≤ most → {input rest : Input} → {a : α} →
    (shape.scan levels).on input = some (a, rest) → shape.Within most a
  | _, .value, _, _, _, _, allowed, _, _, _, read => Shape.within_value allowed read
  | _, .text, _, _, _, _, _, _, _, _, _ => ⟨trivial, Nat.zero_le _⟩
  | _, .flag, _, _, _, _, _, _, _, _, _ => ⟨trivial, Nat.zero_le _⟩
  | _, .natural _, _, _, _, _, _, _, _, _, _ => ⟨trivial, Nat.zero_le _⟩
  | _, .written _, _, _, _, _, _, _, _, _, _ => ⟨trivial, Nat.zero_le _⟩
  | _, .choice _, _, _, _, _, _, _, _, _, _ => ⟨trivial, Nat.zero_le _⟩
  | _, .optional inner, sound, _, _, enough, allowed, _, _, _, read =>
      Shape.within_optional (fun _ _ _ => inner.scan_within sound enough allowed) read
  | _, .list inner, sound, most + 1, _, enough, allowed, _, _, _, read =>
      Shape.within_list allowed (fun _ less _ _ _ => inner.scan_within sound
        (Nat.le_of_succ_le_succ enough) less) read
  | _, .members, _, _, _, _, allowed, _, _, _, read => Shape.within_members allowed read
  | _, .record name positional fields, sound, most + 1, _, enough, allowed, _, _, _, read =>
      Shape.within_record sound (Nat.le_of_succ_le_succ enough) allowed
        (fun _ => fields.membersKept sound (Nat.le_of_succ_le_succ enough))
        (fun _ => fields.itemsWithin sound (Nat.le_of_succ_le_succ enough)) read
  | _, .extended name fields, sound, most + 1, _, enough, allowed, _, _, _, read =>
      Shape.within_extended sound (Nat.le_of_succ_le_succ enough) allowed
        (fun _ => fields.membersKept sound (Nat.le_of_succ_le_succ enough)) read
  | _, .via inner c, sound, _, _, enough, allowed, _, _, _, read => by
      rw [Shape.scan, on_map, Option.map_eq_some_iff] at read
      obtain ⟨⟨a, left⟩, read, same⟩ := read
      cases same
      have within := inner.scan_within sound enough allowed read
      rw [← c.view_make a] at within
      exact within

theorem Fields.membersKept : {α : Type} → (fields : Fields α) → fields.Sound →
    {most deeper : Nat} → fields.floor ≤ most → deeper ≤ most → fields.MembersKept most deeper
  | _, .nil, _, _, _, _, _ => fun _ _ _ _ _ _ _ => trivial
  | _, .cons key presence shape rest, sound, most, _, enough, allowed => by
      have parts : shape.floor ≤ most ∧ rest.floor ≤ most := by
        simp only [Fields.floor] at enough
        omega
      exact Fields.membersKept_cons
        (fun _ _ _ => shape.scan_within sound.2.2.1 parts.1 allowed)
        (rest.membersKept sound.2.2.2 parts.2 allowed)

theorem Fields.itemsWithin : {α : Type} → (fields : Fields α) → fields.Sound →
    {most deeper : Nat} → fields.floor ≤ most → deeper ≤ most → fields.ItemsWithin most deeper
  | _, .nil, _, _, _, _, _ => fun _ _ _ _ _ _ => ⟨trivial, fun _ member => nomatch member⟩
  | _, .cons key presence shape rest, sound, most, _, enough, allowed => by
      have parts : shape.floor ≤ most ∧ rest.floor ≤ most := by
        simp only [Fields.floor] at enough
        omega
      exact Fields.itemsWithin_cons sound enough
        (fun _ _ _ => shape.scan_within sound.2.2.1 parts.1 allowed)
        (rest.itemsWithin sound.2.2.2 parts.2 allowed)

end

end HolderBond
