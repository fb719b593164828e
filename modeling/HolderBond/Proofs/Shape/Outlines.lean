import HolderBond.Proofs.Json.Alike
import HolderBond.Proofs.Json.Parts
import HolderBond.Proofs.Shape.Passing

/-!
# Records and the texts of their fields

A record is read from the spelling of its fields and from nothing else.  From an object each field
is made of the tree that the value of its key is spelled as, from an array of the tree in its place;
a field that has none takes its default.  Members that are no fields may hold anything that can be
passed over, so the text as a whole need not be one that values are read from.
-/

set_option autoImplicit false

namespace HolderBond

open HolderBond.Json (Scan Input Error latest WrittenDocument Blank)
open Json.Scan

/-! ## Spellings -/

namespace Json

/-- A value that is spelled as a document of a tree. -/
def Spells (tree : Json) (value : Input) : Prop :=
  ∃ text, value = letters text ∧ WrittenDocument tree text

/-- The members of known keys among those that were cut out, as trees and first to last. -/
inductive Outlines (keys : List String) :
    List (String × Input) → List (String × Json) → Prop where
  | nil : Outlines keys [] []
  | known {key : String} {value : Input} {tree : Json} {parts : List (String × Input)}
      {entries : List (String × Json)} (member : key ∈ keys) (spelled : Spells tree value)
      (earlier : Outlines keys parts entries) :
      Outlines keys ((key, value) :: parts) (entries ++ [(key, tree)])
  | unknown {key : String} {value : Input} {parts : List (String × Input)}
      {entries : List (String × Json)} (member : key ∉ keys)
      (earlier : Outlines keys parts entries) : Outlines keys ((key, value) :: parts) entries

/-- A known key has a tree where it has a spelling, and the tree is the one spelled. -/
theorem Outlines.latest {keys : List String} {parts : List (String × Input)}
    {entries : List (String × Json)} (outlines : Outlines keys parts entries) {key : String}
    (known : key ∈ keys) : Option.Rel Spells (latest key entries) (parts.lookup key) := by
  induction outlines with
  | nil => exact .none
  | @known name value tree parts entries member spelled earlier ih =>
      rw [List.lookup_cons, Json.latest_append]
      by_cases here : name = key
      · subst here
        simpa using spelled
      · have other : (key == name) = false := beq_false_of_ne (Ne.symm here)
        simpa [here, other] using ih
  | @unknown name value parts entries member earlier ih =>
      have other : (key == name) = false := beq_false_of_ne fun same => member (same ▸ known)
      rwa [List.lookup_cons, other]

end Json

/-! ## Fields -/

def Presence.Gives {α : Type} (presence : Presence α) (shape : Shape α) :
    Option Json → α → Prop
  | none, a => presence.default? = some a
  | some tree, a => shape.ofTree tree = .ok a

namespace Fields

variable {α β : Type} {levels : Nat}

/-- Every field, the first of which has some place, is made of what is given for it. -/
def GivenBy (given : Nat → String → Option Json) : {α : Type} → Fields α → Nat → α → Prop
  | _, .nil, _, _ => True
  | _, .cons key presence shape rest, place, a =>
      presence.Gives shape (given place key) a.1 ∧ rest.GivenBy given (place + 1) a.2

def ValuesOnly : {α : Type} → Fields α → Prop
  | _, .nil => True
  | _, .cons _ _ shape rest => shape.Retains ∧ rest.ValuesOnly

theorem ValuesOnly.retains : {α : Type} → {fields : Fields α} → fields.ValuesOnly → fields.Retains
  | _, .nil, _ => retains_nil
  | _, .cons _ _ _ _, only => retains_cons only.1 only.2.retains

theorem givenBy_of_complete {entries : List (String × Json)} : {α : Type} → {fields : Fields α} →
    {all : fields.Slots} → {a : α} → (place : Nat) → fields.Told all entries →
      fields.complete all = .ok a → fields.GivenBy (fun _ key => latest key entries) place a
  | _, .nil, _, _, _, _, _ => trivial
  | _, .cons key presence shape rest, all, a, place, told, done => by
      obtain ⟨slot, others⟩ := all
      have done := (complete_eq slot others).symm.trans done
      obtain ⟨here, later⟩ := told
      cases known : slot <|> presence.default? with
      | none =>
          rw [known] at done
          cases done
      | some x =>
          rw [known] at done
          obtain ⟨b, completed, same⟩ := bind_eq_ok.1 done
          cases same
          refine ⟨?_, givenBy_of_complete (place + 1) later completed⟩
          show presence.Gives shape (latest key entries) x
          rcases Presence.told_cases here with ⟨absent, rfl⟩ | ⟨tree, y, found, rfl, made⟩
          · rw [absent]
            exact known
          · cases known
            rw [found]
            exact made

/-! ## Objects -/

def scanOrDrop (fields : Fields α) (deeper : Nat) (key : String) (all : fields.Slots) :
    Scan fields.Slots :=
  if fields.keys.contains key then fields.scanMember deeper key all else dropMember all

/-- What is cut out says what the slots hold. -/
def Related (fields : Fields α) (all : fields.Slots) (parts : List (String × Input)) : Prop :=
  ∃ entries, Json.Outlines fields.keys parts entries ∧ fields.Told all entries

theorem related_scanOrDrop {fields : Fields α} (sound : fields.Sound) (only : fields.ValuesOnly)
    {key : String} {all next : fields.Slots} {parts : List (String × Input)} {cs : List Char}
    {rest : Input} (related : fields.Related all parts)
    (read : (fields.scanOrDrop levels key all).on (letters cs) = some (next, rest)) :
    (∃ more, rest = letters more) ∧
      ∃ along, (cutMember key parts).on (letters cs) = some (along, rest) ∧
        fields.Related next along := by
  obtain ⟨entries, outlines, told⟩ := related
  rw [scanOrDrop, on_ite] at read
  split at read
  · next contained =>
      have known := List.contains_iff_mem.1 contained
      obtain ⟨body, tree, start, treeRead⟩ := only.retains levels key all _ _ _ known read
      have put := fields.membersFollow levels key all _ body tree rest start treeRead
      obtain ⟨taken, -⟩ := given_eq_some.1 (put.symm.trans read)
      obtain ⟨-, body, -, rfl⟩ := exists_letters_of_suffix (suffix_of_bare start)
      obtain ⟨text, more, rfl, cut, written⟩ := on_spelled_of_value treeRead
      exact ⟨⟨more, rfl⟩, _, on_cutMember start cut, _,
        .known known ⟨text, rfl, written⟩ outlines, told_takeMember sound told known taken⟩
  · next contained =>
      have unknown : key ∉ fields.keys := fun known => contained (List.contains_iff_mem.2 known)
      obtain ⟨body, start, passed, rfl⟩ := dropMember_cases read
      obtain ⟨-, body, -, rfl⟩ := exists_letters_of_suffix (suffix_of_bare start)
      obtain ⟨text, more, rfl, rfl⟩ := exists_letters_of_suffix (leavesEnd_skipAny _ _ _ passed)
      exact ⟨⟨more, rfl⟩, _, on_cutMember start (on_spelled passed), _,
        .unknown unknown outlines, told⟩

theorem outlines_of_members {fields : Fields α} (sound : fields.Sound) (only : fields.ValuesOnly)
    {all : fields.Slots} {cs : List Char} {rest : Input}
    (read : (members (fields.scanOrDrop levels) fields.noSlots).on (letters cs) =
      some (all, rest)) :
    ∃ parts, (members cutMember []).on (letters cs) = some (parts, rest) ∧
      fields.Related all parts := by
  have begun : fields.Related fields.noSlots [] := ⟨[], .nil, fields.told_noSlots⟩
  refine exists_related (fun input => ∃ cs, input = letters cs) fields.Related ?_ ?_ ⟨cs, rfl⟩
    begun read
  · rintro _ rest suffix ⟨cs, rfl⟩
    obtain ⟨-, more, -, same⟩ := exists_letters_of_suffix suffix
    exact ⟨more, same⟩
  · rintro key all parts _ next rest ⟨cs, rfl⟩ related memberRead
    exact related_scanOrDrop sound only related memberRead

/-! ## Arrays -/

theorem exists_items : {α : Type} → {fields : Fields α} → fields.ValuesOnly →
    ∀ {expected : String} {index : Nat} {input rest : Input} {a : α},
      (fields.scanAll levels expected index).on input = some (a, rest) →
      ∃ clock trees,
        (Json.Scan.itemsWithin (value levels) clock (index == 0)).on input = some (trees, rest)
  | _, .nil, _, expected, index, input, rest, _, read => by
      rw [on_scanAll, Option.bind_eq_some_iff] at read
      obtain ⟨⟨⟨⟩, left⟩, none, read⟩ := read
      cases none
      obtain ⟨⟨⟨⟩, last⟩, ended, same⟩ := Option.map_eq_some_iff.1 read
      cases same
      exact ⟨[.char ']'], [], on_itemsWithin_ended (Nat.succ_pos _) (on_endItems_iff.1 ended)⟩
  | _, .cons key presence shape others, only, expected, index, input, rest, _, read => by
      rw [scanAll_cons, Option.bind_eq_some_iff] at read
      obtain ⟨⟨goesOn, next⟩, more, read⟩ := read
      rw [on_moreItems_iff] at more
      cases goesOn with
      | true =>
          rw [if_pos rfl, Option.bind_eq_some_iff] at read
          obtain ⟨⟨x, left⟩, itemRead, read⟩ := read
          obtain ⟨⟨b, last⟩, laterRead, same⟩ := Option.map_eq_some_iff.1 read
          cases same
          obtain ⟨tree, treeRead⟩ := only.1 levels _ _ _ itemRead
          obtain ⟨clock, trees, treesRead⟩ := exists_items only.2 laterRead
          refine ⟨.char ']' :: clock, tree :: trees, ?_⟩
          rw [on_itemsWithin_more more treeRead]
          exact congrArg (Option.map _) treesRead
      | false =>
          rw [if_neg Bool.false_ne_true, Option.bind_eq_some_iff] at read
          obtain ⟨d, -, read⟩ := read
          obtain ⟨⟨b, last⟩, laterRead, same⟩ := Option.map_eq_some_iff.1 read
          cases same
          -- Once the array has ended, it has ended for all fields that are left.
          obtain ⟨clock, trees, treesRead⟩ := exists_items only.2 laterRead
          generalize (index == 0) = first at more ⊢
          generalize start : bare input = text at more
          cases more with
          | @ended _ after =>
              have stop : bare (.char ']' :: after) = .char ']' :: after := bare_of_solid after rfl
              cases itemsWithin_step treesRead with
              | @ended g clock _ again =>
                  cases stop.symm.trans again
                  exact ⟨g :: clock, [], on_itemsWithin_ended (Nat.succ_pos _) start⟩
              | more goesOn =>
                  rw [stop] at goesOn
                  cases goesOn

theorem givenBy_of_takeAll {expected : String} {items : List Json} : {α : Type} →
    {fields : Fields α} → {place : Nat} → {a : α} →
      fields.takeAll expected place (items.drop place) = some a →
      fields.GivenBy (fun place _ => items[place]?) place a
  | _, .nil, _, _, _ => trivial
  | _, .cons key presence shape others, place, a, taken => by
      have later : items.drop (place + 1) = (items.drop place).tail := by
        rw [List.tail_drop]
      have first : items[place]? = (items.drop place).head? := by
        rw [List.head?_drop]
      show presence.Gives shape items[place]? a.1 ∧ others.GivenBy _ (place + 1) a.2
      rw [first]
      cases here : items.drop place with
      | nil =>
          rw [here] at taken later
          rw [takeAll_default, Option.bind_eq_some_iff] at taken
          obtain ⟨x, default, taken⟩ := taken
          obtain ⟨b, others, same⟩ := Option.map_eq_some_iff.1 taken
          cases same
          exact ⟨default, givenBy_of_takeAll ((congrArg _ later).trans others)⟩
      | cons tree trees =>
          rw [here] at taken later
          rw [takeAll_cons, Option.bind_eq_some_iff] at taken
          obtain ⟨x, made, taken⟩ := taken
          obtain ⟨b, others, same⟩ := Option.map_eq_some_iff.1 taken
          cases same
          exact ⟨toOption_eq_some.1 made, givenBy_of_takeAll ((congrArg _ later).trans others)⟩

end Fields

/-! ## Documents -/

namespace Json

variable {text key : String} {place : Nat}

theorem document_of_on_items {cs : List Char} {body rest : Input} {levels : Nat} {clock : Input}
    {items : List Json} (start : bare (letters cs) = .char '[' :: body)
    (read : (itemsWithin (value levels) clock true).on body = some (items, rest))
    (ended : bare rest = []) : WrittenDocument (.array items) cs := by
  obtain ⟨before, more, rfl, space, left⟩ := bare_letters cs
  obtain ⟨inside, rfl, rfl⟩ := @letters_eq_append _ ['['] body (left.symm.trans start)
  obtain ⟨text, more, rfl, rfl, written⟩ := takes_array (takes_value levels) clock _ _ _ read
  simpa using WrittenDocument.document space written (blank_of_bare ended)

/-- The tree that a text holds for a field: in an object the one that the value of its key is
spelled as, in an array the item in its place. -/
inductive Holds (text key : String) (place : Nat) (tree : Json) : Prop where
  | member {parts : List (String × Input)} {value : Input}
      (cut : memberTexts? text = some parts) (found : parts.lookup key = some value)
      (spelled : Spells tree value) : Holds text key place tree
  | item {items : List Json} (written : WrittenDocument (.array items) text.toList)
      (found : items[place]? = some tree) : Holds text key place tree

inductive Provides (text key : String) (place : Nat) : Prop where
  | member {parts : List (String × Input)} (cut : memberTexts? text = some parts)
      (found : (parts.lookup key).isSome) : Provides text key place
  | item {items : List Json} (written : WrittenDocument (.array items) text.toList)
      (found : items[place]?.isSome) : Provides text key place

theorem provides_of_member
    (found : ((memberTexts? text).bind fun parts => parts.lookup key).isSome) :
    Provides text key place := by
  cases cut : memberTexts? text with
  | none =>
      rw [cut] at found
      cases found
  | some parts =>
      rw [cut] at found
      exact .member cut found

theorem provides_of_item {items : List Json} (read : Json.read text = .ok (.array items))
    (found : items[place]?.isSome) : Provides text key place :=
  .item (read_eq_ok_iff_written.1 read).1 found

theorem not_array_of_cut {parts : List (String × Input)} {items : List Json}
    (cut : memberTexts? text = some parts) : ¬ WrittenDocument (.array items) text.toList := by
  intro written
  obtain ⟨body, -, brace, -, -⟩ := memberTexts?_eq_some_iff.1 cut
  obtain ⟨rest, read, -⟩ := on_value_of_document written (Nat.le_refl _)
  have kind := (on_value_iff _ _).1 read
  rw [brace] at kind
  cases kind

theorem Spells.unique {q r : Json} {value : Input} (first : Spells q value)
    (second : Spells r value) : q = r := by
  obtain ⟨text, rfl, written⟩ := first
  obtain ⟨other, same, writtenOther⟩ := second
  cases letters_injective same
  exact written.unique writtenOther

/-- A text holds one tree for a field at most. -/
theorem Holds.unique {q r : Json} (first : Holds text key place q)
    (second : Holds text key place r) : q = r := by
  cases first with
  | member cut found spelled =>
      cases second with
      | member cutAgain foundAgain spelledAgain =>
          cases cut.symm.trans cutAgain
          cases found.symm.trans foundAgain
          exact spelled.unique spelledAgain
      | item written _ => exact absurd written (not_array_of_cut cut)
  | item written found =>
      cases second with
      | member cut _ _ => exact absurd written (not_array_of_cut cut)
      | item writtenAgain foundAgain =>
          cases written.unique writtenAgain
          exact Option.some.inj (found.symm.trans foundAgain)

end Json

/-! ## Records -/

namespace Shape

variable {α β : Type} {name text : String} {fields : Fields α} {positional : Bool} {a : α}

/-- What is given for the fields is what a text holds for them, and nothing only where it has
nothing for them. -/
def Sourced (fields : Fields α) (text : String) (given : Nat → String → Option Json) : Prop :=
  ∀ key ∈ fields.keys, ∀ place,
    (∀ tree, given place key = some tree → Json.Holds text key place tree) ∧
      (Json.Provides text key place → (given place key).isSome)

theorem sourced_of_members {parts : List (String × Input)} {entries : List (String × Json)}
    (cut : memberTexts? text = some parts) (outlines : Json.Outlines fields.keys parts entries) :
    Sourced fields text fun _ key => latest key entries := by
  intro key known place
  have related := outlines.latest known
  constructor
  · intro tree (found : latest key entries = some tree)
    rw [found] at related
    generalize spelling : parts.lookup key = value at related
    cases related with
    | some spelled => exact .member cut spelling spelled
  · intro provided
    show (latest key entries).isSome
    cases provided with
    | member cutAgain found =>
        cases cut.symm.trans cutAgain
        generalize parts.lookup key = value at related found
        generalize latest key entries = tree at related
        cases related with
        | some _ => rfl
        | none => cases found
    | item written _ => exact absurd written (Json.not_array_of_cut cut)

theorem sourced_of_items {items : List Json}
    (written : WrittenDocument (.array items) text.toList) :
    Sourced fields text fun place _ => items[place]? := by
  intro key _ place
  refine ⟨fun tree found => .item written found, fun provided => ?_⟩
  cases provided with
  | member cut _ => exact absurd written (Json.not_array_of_cut cut)
  | item again found =>
      cases written.unique again
      exact found

/-- Every field of a record that was read is made of what the text holds for it. -/
theorem givenBy_of_read (sound : fields.Sound) (only : fields.ValuesOnly)
    (read : (Shape.record name positional fields).read text = .ok a) :
    ∃ given, Sourced fields text given ∧ fields.GivenBy given 0 a := by
  obtain ⟨rest, got, ended⟩ := run_eq_ok.1 read
  have got : ((Shape.record name positional fields).scan Json.maxLevels).on
      (letters text.toList) = some (a, rest) := got
  rw [Shape.scan, on_bind, on_peek, Option.bind_some] at got
  dsimp only at got
  split at got
  · rw [on_ite] at got
    split at got
    · obtain ⟨deeper, body, -, start, inside⟩ := on_sequence_cases got
      have inside : (fields.scanAll deeper (fields.positionalWords name) 0).on body =
          some (a, rest) := inside
      obtain ⟨clock, items, itemsRead⟩ := Fields.exists_items only inside
      have follows := fields.itemsFollow deeper (fields.positionalWords name) 0 clock body items
        rest itemsRead
      obtain ⟨b, taken, same⟩ := Option.map_eq_some_iff.1 (follows.symm.trans inside)
      cases same
      rw [bare_bare] at start
      exact ⟨_, sourced_of_items (Json.document_of_on_items start itemsRead ended),
        Fields.givenBy_of_takeAll taken⟩
    · rw [on_mismatch] at got
      cases got
  · obtain ⟨deeper, body, -, start, inside⟩ := on_mapping_cases got
    obtain ⟨all, left, membersRead, done⟩ := on_bind_eq_some.1 inside
    obtain ⟨completed, rfl⟩ := on_ofExcept_iff.1 done
    rw [bare_bare] at start
    obtain ⟨-, cs, -, rfl⟩ := exists_letters_of_suffix (suffix_of_bare start)
    obtain ⟨parts, cut, entries, outlines, told⟩ :=
      Fields.outlines_of_members sound only membersRead
    have whole := memberTexts?_eq_some_iff.2 ⟨_, _, start, cut, ended⟩
    exact ⟨_, sourced_of_members whole outlines, Fields.givenBy_of_complete 0 told completed⟩

theorem exists_of_read_via {inner : Shape α} {c : Correspondence α β} {b : β}
    (read : (Shape.via inner c).read text = .ok b) :
    ∃ a, inner.read text = .ok a ∧ c.make a = b := by
  obtain ⟨rest, got, ended⟩ := run_eq_ok.1 read
  rw [Shape.scan, on_map, Option.map_eq_some_iff] at got
  obtain ⟨⟨a, left⟩, got, same⟩ := got
  cases same
  exact ⟨a, run_eq_ok.2 ⟨left, got, ended⟩, rfl⟩

end Shape

end HolderBond
