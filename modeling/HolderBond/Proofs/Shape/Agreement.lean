import HolderBond.Proofs.Shape.Faithful
import HolderBond.Proofs.Shape.Following

/-!
# Texts and trees are read alike

A shape reads from a text what it makes of the text's tree, so whatever holds of trees holds of
texts.  Objects are read member by member and arrays item by item, each in step with the reading
of the tree.
-/

set_option autoImplicit false

namespace HolderBond

open HolderBond.Json (Scan Input Error)
open Json.Scan

/-- The members of an object put where they belong, the unknown ones being kept. -/
def Fields.takeOrKeep {α : Type} (fields : Fields α)
    (state : fields.Slots × List (String × Json)) (entry : String × Json) :
    Except Error (fields.Slots × List (String × Json)) :=
  if fields.keys.contains entry.1 then
    (fun all => (all, state.2)) <$> fields.takeMember entry.1 entry.2 state.1
  else .ok (state.1, entry :: state.2)

theorem Fields.foldlM_takeOrKeep {α : Type} (fields : Fields α) (entries : List (String × Json))
    (all : fields.Slots) (seen : List (String × Json)) :
    entries.foldlM fields.takeOrKeep (all, seen) =
      (fun all => (all,
        (entries.filter fun entry => !fields.keys.contains entry.1).reverse ++ seen)) <$>
        entries.foldlM fields.take all := by
  induction entries generalizing all seen with
  | nil => rfl
  | cons entry entries ih =>
      rw [List.foldlM_cons, List.foldlM_cons, Fields.takeOrKeep, Fields.take]
      split
      · next known =>
          have same : (entry :: entries).filter (fun entry => !fields.keys.contains entry.1) =
              entries.filter fun entry => !fields.keys.contains entry.1 := by
            rw [List.filter_cons, known]
            rfl
          rw [same]
          cases fields.takeMember entry.1 entry.2 all with
          | error e => rfl
          | ok all => exact ih all seen
      · next unknown =>
          have same : (entry :: entries).filter (fun entry => !fields.keys.contains entry.1) =
              entry :: entries.filter fun entry => !fields.keys.contains entry.1 := by
            rw [List.filter_cons, Bool.eq_false_iff.2 unknown]
            rfl
          rw [same, List.reverse_cons, List.append_assoc]
          exact ih all (entry :: seen)

def Fields.scanAll {α : Type} (fields : Fields α) (levels : Nat) (expected : String)
    (index : Nat) : Scan α := do
  let a ← fields.scanItems levels expected index
  endItems
  return a

def Fields.takeAll {α : Type} (fields : Fields α) (expected : String) (index : Nat)
    (trees : List Json) : Option α :=
  (fields.takeItems expected index trees).toOption.bind fun taken =>
    if taken.2.isEmpty then some taken.1 else none

namespace Fields

section Items

variable {α β : Type} {levels : Nat}

/-- The fields of an array are read from its items. -/
def ItemsFollow (fields : Fields α) (levels : Nat) : Prop :=
  ∀ expected index clock input trees rest,
    (itemsWithin (value levels) clock (index == 0)).on input = some (trees, rest) →
      (fields.scanAll levels expected index).on input =
        (fields.takeAll expected index trees).map fun a => (a, rest)

theorem on_scanAll (fields : Fields α) (expected : String) (index : Nat) (input : Input) :
    (fields.scanAll levels expected index).on input =
      ((fields.scanItems levels expected index).on input).bind fun taken =>
        (endItems.on taken.2).map fun ended => (taken.1, ended.2) := by
  unfold scanAll
  rw [on_bind]
  congr 1
  funext taken
  rw [on_bind]
  cases endItems.on taken.2 <;> rfl

def afterComma : Scan Unit := do
  skip
  match ← peek with
  | some (.char ']') => fail .trailingComma
  | _ => fail .trailingCharacters

theorem on_afterComma (input : Input) : afterComma.on input = none := by
  rw [afterComma, on_bind, on_skip, Option.bind_some, on_bind, on_peek, Option.bind_some]
  dsimp only
  split <;> rfl

theorem on_endItems_iff {input rest : Input} :
    endItems.on input = some ((), rest) ↔ bare input = .char ']' :: rest := by
  unfold endItems
  rw [on_bind, on_peek, Option.bind_some]
  dsimp only
  constructor
  · intro read
    split at read
    · cases read
    · next start =>
        obtain ⟨body, start⟩ := List.head?_eq_some_iff.1 start
        rw [start] at read ⊢
        cases read
        rfl
    · cases (on_afterComma _).symm.trans read
    · cases read
  · intro start
    rw [start]
    rfl

theorem on_endItems_of_more {first : Bool} {input next : Input}
    (more : MoreItems first (bare input) true next) : endItems.on input = none := by
  unfold endItems
  rw [on_bind, on_peek, Option.bind_some]
  generalize bare input = start at more
  cases more with
  | first other =>
      rw [List.head?_cons]
      dsimp only
      split
      · next none => cases none
      · next same => cases same; exact absurd rfl other
      · exact on_afterComma _
      · rfl
  | comma again other => exact on_afterComma _

theorem itemsFollow_nil : Fields.nil.ItemsFollow levels := by
  intro expected index clock input trees rest read
  have ends : (Fields.nil.scanAll levels expected index).on input =
      (endItems.on input).map fun ended => ((), ended.2) := by
    rw [on_scanAll]
    rfl
  rw [ends]
  cases itemsWithin_step read with
  | ended stop =>
      rw [on_endItems_iff.2 stop]
      rfl
  | more goesOn =>
      rw [on_endItems_of_more goesOn]
      rfl

section Cons

variable {key : String} {presence : Presence α} {shape : Shape α} {others : Fields β}

theorem scanItems_cons (expected : String) (index : Nat) (input : Input) :
    ((Fields.cons key presence shape others).scanItems levels expected index).on input =
      ((moreItems (index == 0)).on input).bind fun more =>
        if more.1 then
          ((shape.scan levels).on more.2).bind fun taken =>
            ((others.scanItems levels expected (index + 1)).on taken.2).map fun last =>
              ((taken.1, last.1), last.2)
        else
          presence.default?.bind fun d =>
            ((others.scanItems levels expected (index + 1)).on more.2).map fun last =>
              ((d, last.1), last.2) := by
  rw [scanItems, on_bind]
  congr 1
  funext more
  rw [on_ite]
  split
  · rw [on_bind]
    congr 1
    funext taken
    rw [on_bind]
    cases (others.scanItems levels expected (index + 1)).on taken.2 <;> rfl
  · cases presence.default? with
    | none => rfl
    | some d =>
        dsimp only
        rw [on_bind]
        cases (others.scanItems levels expected (index + 1)).on more.2 <;> rfl

theorem takeAll_cons (expected : String) (index : Nat) (tree : Json) (trees : List Json) :
    (Fields.cons key presence shape others).takeAll expected index (tree :: trees) =
      (shape.ofTree tree).toOption.bind fun a =>
        (others.takeAll expected (index + 1) trees).map fun b => (a, b) := by
  unfold takeAll
  rw [takeItems]
  cases shape.ofTree tree with
  | error e => rfl
  | ok a =>
      cases others.takeItems expected (index + 1) trees with
      | error e => rfl
      | ok taken =>
          obtain ⟨b, left⟩ := taken
          cases left <;> rfl

theorem takeAll_default (expected : String) (index : Nat) :
    (Fields.cons key presence shape others).takeAll expected index [] =
      presence.default?.bind fun a =>
        (others.takeAll expected (index + 1) []).map fun b => (a, b) := by
  unfold takeAll
  rw [takeItems]
  cases presence.default? with
  | none => rfl
  | some a =>
      cases others.takeItems expected (index + 1) [] with
      | error e => rfl
      | ok taken =>
          obtain ⟨b, left⟩ := taken
          cases left <;> rfl

theorem scanAll_cons (expected : String) (index : Nat) (input : Input) :
    ((Fields.cons key presence shape others).scanAll levels expected index).on input =
      ((moreItems (index == 0)).on input).bind fun more =>
        if more.1 then
          ((shape.scan levels).on more.2).bind fun taken =>
            ((others.scanAll levels expected (index + 1)).on taken.2).map fun last =>
              ((taken.1, last.1), last.2)
        else
          presence.default?.bind fun d =>
            ((others.scanAll levels expected (index + 1)).on more.2).map fun last =>
              ((d, last.1), last.2) := by
  rw [on_scanAll, scanItems_cons]
  cases (moreItems (index == 0)).on input with
  | none => rfl
  | some more =>
      rw [Option.bind_some, Option.bind_some]
      split
      · cases (shape.scan levels).on more.2 with
        | none => rfl
        | some taken =>
            rw [Option.bind_some, Option.bind_some, on_scanAll, Option.bind_map, Option.map_bind]
            congr 1
            funext last
            rw [Function.comp_apply, Function.comp_apply, Option.map_map]
            rfl
      · cases presence.default? with
        | none => rfl
        | some d =>
            rw [Option.bind_some, Option.bind_some, on_scanAll, Option.bind_map, Option.map_bind]
            congr 1
            funext last
            rw [Function.comp_apply, Function.comp_apply, Option.map_map]
            rfl

theorem itemsFollow_cons (follows : Follows (shape.scan levels) levels shape.ofTree)
    (later : others.ItemsFollow levels) :
    (Fields.cons key presence shape others).ItemsFollow levels := by
  intro expected index clock input trees rest read
  rw [scanAll_cons]
  cases itemsWithin_step read with
  | @ended g clock _ stop =>
      have stopped : (moreItems (index == 0)).on input = some (false, .char ']' :: rest) := by
        rw [on_moreItems_iff, stop]
        exact .ended
      have ended : (itemsWithin (value levels) (g :: clock) (index + 1 == 0)).on
          (.char ']' :: rest) = some ([], rest) :=
        on_itemsWithin_ended (Nat.succ_pos _) (bare_of_solid rest rfl)
      rw [stopped, Option.bind_some, if_neg Bool.false_ne_true,
        later expected (index + 1) _ _ _ _ ended, takeAll_default]
      cases presence.default? with
      | none => rfl
      | some d => cases others.takeAll expected (index + 1) [] <;> rfl
  | @more _ _ next left _ x trees goesOn itemRead lastRead =>
      rw [(on_moreItems_iff _ _).2 goesOn, Option.bind_some, if_pos rfl, follows _ _ _ itemRead,
        takeAll_cons]
      cases shape.ofTree x with
      | error e => rfl
      | ok a =>
          rw [given_ok, Option.bind_some, later expected (index + 1) _ _ _ _ lastRead]
          cases others.takeAll expected (index + 1) trees <;> rfl

end Cons

end Items

end Fields

namespace Fields

/-- A member that is read is put where its tree would be put. -/
def MembersFollow {α : Type} (fields : Fields α) (levels : Nat) : Prop :=
  ∀ name all input body tree rest, bare input = .char ':' :: body →
    (value levels).on body = some (tree, rest) →
    (fields.scanMember levels name all).on input = given (fields.takeMember name tree all) rest

section Members

variable {α β : Type} {levels : Nat} {key : String} {presence : Presence α} {shape : Shape α}
  {others : Fields β}

def scanInto (scan : Scan α) (all : others.Slots) :
    Scan (Fields.cons key presence shape others).Slots := do
  colon
  let a ← scan
  return slots (some a) all

theorem scanMember_cons (name : String) (slot : Option α) (all : others.Slots) :
    (Fields.cons key presence shape others).scanMember levels name (slots slot all) =
      if name = key then
        if slot.isSome then fail (.duplicateField key) >>= fun () => scanInto (shape.scan levels) all
        else scanInto (shape.scan levels) all
      else others.scanMember levels name all >>= fun all => pure (slots slot all) :=
  rfl

theorem membersFollow_cons (follows : Follows (shape.scan levels) levels shape.ofTree)
    (later : others.MembersFollow levels) :
    (Fields.cons key presence shape others).MembersFollow levels := by
  rintro name ⟨slot, all⟩ input body tree rest start read
  refine (congrArg (fun scan : Scan _ => scan.on input) (scanMember_cons name slot all)).trans ?_
  refine Eq.trans ?_ (congrArg (given · rest) (takeMember_cons name tree slot all).symm)
  by_cases same : name = key
  · rw [if_pos same, if_pos same, on_ite]
    split
    · rfl
    · rw [scanInto, on_bind, on_colon_iff.2 start, Option.bind_some, on_bind,
        follows _ _ _ read]
      cases shape.ofTree tree <;> rfl
  · rw [if_neg same, if_neg same, on_bind, later _ _ _ _ _ _ start read]
    cases others.takeMember name tree all <;> rfl

end Members

end Fields

namespace Shape

section Composite

variable {α : Type} {levels : Nat}

theorem follows_optional {inner : Shape α}
    (follows : Follows (inner.scan levels) levels inner.ofTree) :
    Follows ((Shape.optional inner).scan levels) levels (Shape.optional inner).ofTree := by
  intro input rest tree got
  have again : (Scan.value levels).on (bare input) = some (tree, rest) := by
    rw [← skipsSpace_value, got]
  have value := (on_value_iff levels tree).1 got
  rw [Shape.scan, on_bind, on_peek, Option.bind_some]
  dsimp only
  by_cases isNull : tree = .null
  · subst isNull
    generalize bare input = start at value
    cases value with
    | null => exact (on_word_pure _ _ _).2 ⟨rfl, rfl⟩
  · have noNull : (bare input).head? ≠ some (.char 'n') := fun same =>
      isNull (value.null_iff.1 same)
    have ofTree : (Shape.optional inner).ofTree tree = some <$> inner.ofTree tree := by
      cases tree with
      | null => exact absurd rfl isNull
      | _ => rfl
    split
    · next same => exact absurd same noNull
    · rw [on_map, follows _ _ _ again, ofTree, given_map]

theorem follows_list {inner : Shape α}
    (follows : ∀ levels, Follows (inner.scan levels) levels inner.ofTree) :
    Follows ((Shape.list inner).scan levels) levels (Shape.list inner).ofTree := by
  refine follows_sequence "a sequence" ?_ ?_
  · intro deeper _ body xs rest read
    exact on_itemsWithin_of_follows (follows deeper) read
  · intro tree noArray
    cases tree with
    | array xs => exact absurd rfl (noArray xs)
    | _ => rfl

theorem follows_members :
    Follows (Shape.members.scan levels) levels Shape.members.ofTree := by
  refine follows_mapping "a map" ?_ ?_
  · intro deeper _ body entries rest read
    have same : (Scan.members (keepMember deeper) []).on body = some (entries.reverse, rest) := read
    rw [on_bind, same]
    simp [Shape.ofTree]
  · intro tree noObject
    cases tree with
    | object ms => exact absurd rfl (noObject ms)
    | _ => rfl

theorem follows_object {fields : Fields α} (expected : String)
    (member : ∀ levels, fields.MembersFollow levels) :
    Follows (mapping levels expected fun deeper => do
      let all ← Scan.members (fun key all =>
        if fields.keys.contains key then fields.scanMember deeper key all
        else dropMember all) fields.noSlots
      fields.complete all) levels fun
        | .object entries => entries.foldlM fields.take fields.noSlots >>= fields.complete
        | tree => tree.mismatch expected := by
  refine follows_mapping expected ?_ ?_
  · intro deeper _ body entries rest read
    rw [on_bind, on_members_of_follows _ fields.take ?_ read]
    · dsimp only
      cases entries.foldlM fields.take fields.noSlots with
      | error e => rfl
      | ok all => exact on_ofExcept (fields.complete all) rest
    · intro key all input body v left start read
      rw [on_ite, Fields.take]
      split
      · exact member deeper key all input body v left start read
      · exact on_dropMember start read
  · intro tree noObject
    cases tree with
    | object ms => exact absurd rfl (noObject ms)
    | _ => rfl

theorem follows_array {fields : Fields α} (expected words : String)
    (item : ∀ levels, fields.ItemsFollow levels) :
    Follows (sequence levels expected fun deeper => fields.scanAll deeper words 0) levels fun
      | .array items => fields.takeItems words 0 items >>= fun (a, rest) =>
          if rest.isEmpty then return a
          else .error (.wrongLength items.length "fewer elements in array")
      | tree => tree.mismatch expected := by
  refine follows_sequence expected ?_ ?_
  · intro deeper _ body xs rest read
    rw [item deeper words 0 _ _ _ _ read]
    dsimp only
    unfold Fields.takeAll
    cases fields.takeItems words 0 xs with
    | error e => rfl
    | ok taken =>
        obtain ⟨a, left⟩ := taken
        cases left <;> rfl
  · intro tree noArray
    cases tree with
    | array xs => exact absurd rfl (noArray xs)
    | _ => rfl

theorem follows_record {name : String} {positional : Bool} {fields : Fields α}
    (member : ∀ levels, fields.MembersFollow levels)
    (item : ∀ levels, fields.ItemsFollow levels) :
    Follows ((Shape.record name positional fields).scan levels) levels
      (Shape.record name positional fields).ofTree := by
  intro input rest tree got
  have again : (Scan.value levels).on (bare input) = some (tree, rest) := by
    rw [← skipsSpace_value, got]
  have value := (on_value_iff levels tree).1 got
  rw [Shape.scan, on_bind, on_peek, Option.bind_some]
  dsimp only
  split
  · next bracket =>
      obtain ⟨xs, rfl⟩ := value.bracket_iff.1 bracket
      rw [on_ite]
      split
      · next isPositional =>
          subst isPositional
          exact follows_array s!"struct {name}" (fields.positionalWords name) item _ _ _ again
      · next notPositional =>
          rw [on_mismatch, Shape.ofTree, if_neg notPositional]
          rfl
  · next other =>
      have noArray : ∀ xs, tree ≠ .array xs := fun xs same =>
        other (value.bracket_iff.2 ⟨xs, same⟩)
      rw [follows_object s!"struct {name}" member _ _ _ again]
      cases tree with
      | array xs => exact absurd rfl (noArray xs)
      | _ => rfl

theorem follows_extended {name : String} {fields : Fields α}
    (member : ∀ levels, fields.MembersFollow levels) :
    Follows ((Shape.extended name fields).scan levels) levels
      (Shape.extended name fields).ofTree := by
  refine follows_mapping s!"struct {name}" ?_ ?_
  · intro deeper _ body entries rest read
    rw [on_bind, on_members_of_follows _ fields.takeOrKeep ?_ read, Fields.foldlM_takeOrKeep]
    · have means : (Shape.extended name fields).ofTree (.object entries) =
          entries.foldlM fields.take fields.noSlots >>= fun all =>
            fields.complete all >>= fun a => pure (a, Members.ofEntries
              (entries.filter fun entry => !fields.keys.contains entry.1)) := rfl
      rw [means]
      cases entries.foldlM fields.take fields.noSlots with
      | error e => rfl
      | ok all =>
          rw [List.append_nil]
          refine Eq.trans (on_bind _ _ _) ?_
          have complete : given (Except.ok all >>= fun all => fields.complete all >>= fun a =>
              pure (a, Members.ofEntries
                (entries.filter fun entry => !fields.keys.contains entry.1))) rest =
              given (fields.complete all >>= fun a => pure (a, Members.ofEntries
                (entries.filter fun entry => !fields.keys.contains entry.1))) rest := rfl
          rw [on_ofExcept, complete]
          cases fields.complete all with
          | error e => rfl
          | ok a =>
              rw [List.reverse_reverse]
              rfl
    · rintro key ⟨all, seen⟩ input body v left start read
      rw [on_ite, Fields.takeOrKeep]
      split
      · rw [on_bind, member deeper key all input body v left start read, given_map]
        cases fields.takeMember key v all <;> rfl
      · have kept : (keepMember deeper key seen).on input = some ((key, v) :: seen, left) :=
          on_keep start read
        rw [on_bind, kept]
        rfl
  · intro tree noObject
    cases tree with
    | object ms => exact absurd rfl (noObject ms)
    | _ => rfl

end Composite

end Shape

mutual

/-- A shape reads from a text what it makes of the text's tree. -/
theorem Shape.scan_follows : {α : Type} → (shape : Shape α) → (levels : Nat) →
    Follows (shape.scan levels) levels shape.ofTree
  | _, .value, levels => (follows_value levels).map FreeForm.ofTree
  | _, .text, levels => follows_text levels "a string"
  | _, .flag, levels => follows_flag levels
  | _, .natural _, levels => follows_natural levels
  | _, .written _, levels => follows_written levels
  | _, .choice _, levels => follows_choice levels
  | _, .optional inner, levels => Shape.follows_optional (inner.scan_follows levels)
  | _, .list inner, _ => Shape.follows_list inner.scan_follows
  | _, .members, _ => Shape.follows_members
  | _, .record _ _ fields, _ => Shape.follows_record fields.membersFollow fields.itemsFollow
  | _, .extended _ fields, _ => Shape.follows_extended fields.membersFollow
  | _, .via inner c, levels => (inner.scan_follows levels).map c.make

theorem Fields.membersFollow : {α : Type} → (fields : Fields α) → (levels : Nat) →
    fields.MembersFollow levels
  | _, .nil, _ => fun _ _ _ _ _ _ start read => on_dropMember start read
  | _, .cons _ _ shape rest, levels =>
      Fields.membersFollow_cons (shape.scan_follows levels) (rest.membersFollow levels)

theorem Fields.itemsFollow : {α : Type} → (fields : Fields α) → (levels : Nat) →
    fields.ItemsFollow levels
  | _, .nil, _ => Fields.itemsFollow_nil
  | _, .cons _ _ shape rest, levels =>
      Fields.itemsFollow_cons (shape.scan_follows levels) (rest.itemsFollow levels)

end

end HolderBond
