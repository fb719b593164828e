import HolderBond.Proofs.Json.Levels
import HolderBond.Proofs.Json.Numbers
import HolderBond.Proofs.Json.Strings

/-!
# How trees may be written

The grammar of texts, apart from any reader: space between any two tokens, characters of strings
in any of their ways, numbers as any numeral that stands for them.  Whatever is written so is
read as the tree that it writes, as long as the tree has no more levels than are allowed.
-/

set_option autoImplicit false

namespace HolderBond.Json

open Scan

def Blank (cs : List Char) : Prop :=
  ∀ c ∈ cs, c ∈ [' ', '\n', '\t', '\r']

mutual

/-- How a tree may be written, with any space between its tokens. -/
inductive WrittenValue : Json → List Char → Prop where
  | null : WrittenValue .null ['n', 'u', 'l', 'l']
  | yes : WrittenValue (.bool true) ['t', 'r', 'u', 'e']
  | no : WrittenValue (.bool false) ['f', 'a', 'l', 's', 'e']
  | number {n : JsonNumber} {cs : List Char} (written : WrittenNumber n cs) :
      WrittenValue (.number n) cs
  | string {s : String} {cs : List Char} (written : WrittenChars s.toList cs) :
      WrittenValue (.string s) ('"' :: (cs ++ ['"']))
  | emptyArray {blank : List Char} (space : Blank blank) :
      WrittenValue (.array []) ('[' :: (blank ++ [']']))
  | array {x : Json} {xs : List Json} {blank item others : List Char} (space : Blank blank)
      (first : WrittenValue x item) (rest : WrittenItems xs others) :
      WrittenValue (.array (x :: xs)) ('[' :: (blank ++ (item ++ others)))
  | emptyObject {blank : List Char} (space : Blank blank) :
      WrittenValue (.object []) ('\x7b' :: (blank ++ ['\x7d']))
  | object {m : String × Json} {ms : List (String × Json)} {blank member others : List Char}
      (space : Blank blank) (first : WrittenMember m member) (rest : WrittenMembers ms others) :
      WrittenValue (.object (m :: ms)) ('\x7b' :: (blank ++ (member ++ others)))

/-- The items after the first, and the end of the array. -/
inductive WrittenItems : List Json → List Char → Prop where
  | ended {blank : List Char} (space : Blank blank) : WrittenItems [] (blank ++ [']'])
  | more {x : Json} {xs : List Json} {before after item others : List Char}
      (spaceBefore : Blank before) (spaceAfter : Blank after) (next : WrittenValue x item)
      (rest : WrittenItems xs others) :
      WrittenItems (x :: xs) (before ++ ',' :: (after ++ (item ++ others)))

inductive WrittenMember : String × Json → List Char → Prop where
  | member {key : String} {v : Json} {name before after value : List Char}
      (named : WrittenChars key.toList name) (spaceBefore : Blank before)
      (spaceAfter : Blank after) (written : WrittenValue v value) :
      WrittenMember (key, v) ('"' :: (name ++ '"' :: (before ++ ':' :: (after ++ value))))

inductive WrittenMembers : List (String × Json) → List Char → Prop where
  | ended {blank : List Char} (space : Blank blank) : WrittenMembers [] (blank ++ ['\x7d'])
  | more {m : String × Json} {ms : List (String × Json)} {before after member others : List Char}
      (spaceBefore : Blank before) (spaceAfter : Blank after) (next : WrittenMember m member)
      (rest : WrittenMembers ms others) :
      WrittenMembers (m :: ms) (before ++ ',' :: (after ++ (member ++ others)))

end

/-- A whole document: a value with space around it. -/
inductive WrittenDocument (tree : Json) : List Char → Prop where
  | document {before value after : List Char} (spaceBefore : Blank before)
      (written : WrittenValue tree value) (spaceAfter : Blank after) :
      WrittenDocument tree (before ++ (value ++ after))

/-! ## Space -/

theorem isSpace_iff {c : Char} : isSpace (.char c) = true ↔ c ∈ [' ', '\n', '\t', '\r'] := by
  simp [isSpace, or_assoc]

theorem blank_nil : Blank [] := by
  simp [Blank]

theorem Blank.isSpace {blank : List Char} (space : Blank blank) :
    ∀ g ∈ letters blank, isSpace g = true := by
  intro g member
  obtain ⟨c, old, rfl⟩ := List.mem_map.1 member
  exact isSpace_iff.2 (space c old)

theorem bare_blank {blank : List Char} (space : Blank blank) (rest : Input) :
    bare (letters blank ++ rest) = bare rest :=
  bare_append rest space.isSpace

/-- A number may end before space, before a comma and before the end of a container. -/
theorem endsNumber_blank {blank : List Char} (space : Blank blank) {rest : Input}
    (mark : ∀ c, first? rest = some c → c ∈ [',', ']', '\x7d']) :
    EndsNumber (letters blank ++ rest) := by
  intro c begins
  have known : c ∈ [' ', '\n', '\t', '\r', ',', ']', '\x7d'] := by
    cases blank with
    | nil => exact List.mem_append_right [' ', '\n', '\t', '\r'] (mark c begins)
    | cons d others =>
        cases begins
        exact List.mem_append_left [',', ']', '\x7d'] (space c List.mem_cons_self)
  clear begins
  simp only [List.mem_cons, List.not_mem_nil, or_false] at known
  rcases known with rfl | rfl | rfl | rfl | rfl | rfl | rfl <;> decide

theorem endsNumber_mark {blank : List Char} (space : Blank blank) {c : Char}
    (mark : c ∈ [',', ']', '\x7d']) (rest : Input) :
    EndsNumber (letters blank ++ .char c :: rest) :=
  endsNumber_blank space (by rintro _ ⟨⟩; exact mark)

theorem WrittenItems.endsNumber {xs : List Json} {cs : List Char} (written : WrittenItems xs cs)
    (more : Input) : EndsNumber (letters cs ++ more) := by
  cases written with
  | ended space =>
      rw [letters_append, List.append_assoc]
      exact endsNumber_mark space (by decide) more
  | more spaceBefore =>
      rw [letters_append, List.append_assoc]
      exact endsNumber_mark spaceBefore (by decide) _

theorem WrittenMembers.endsNumber {ms : List (String × Json)} {cs : List Char}
    (written : WrittenMembers ms cs) (more : Input) : EndsNumber (letters cs ++ more) := by
  cases written with
  | ended space =>
      rw [letters_append, List.append_assoc]
      exact endsNumber_mark space (by decide) more
  | more spaceBefore =>
      rw [letters_append, List.append_assoc]
      exact endsNumber_mark spaceBefore (by decide) _

/-! ## Beginnings and lengths -/

theorem WrittenValue.exists_cons {tree : Json} {cs : List Char} (written : WrittenValue tree cs) :
    ∃ c others, cs = c :: others ∧ isSpace (.char c) = false ∧ c ≠ ']' := by
  have letter : ∀ {c : Char} (others : List Char), isSpace (.char c) = false ∧ c ≠ ']' →
      ∃ d ds, c :: others = d :: ds ∧ isSpace (.char d) = false ∧ d ≠ ']' :=
    fun {c} others good => ⟨c, others, rfl, good⟩
  cases written with
  | number written =>
      obtain ⟨c, others, rfl, begins⟩ := written.exists_cons
      refine letter others ⟨solid_of_beginsNumber begins, ?_⟩
      rintro rfl
      exact absurd begins (by decide)
  | _ => exact letter _ (by decide)

theorem WrittenItems.length_lt : {xs : List Json} → {cs : List Char} → WrittenItems xs cs →
    xs.length < cs.length
  | _, _, .ended _ => by simp
  | _, _, .more _ _ _ rest => by
      have others := rest.length_lt
      simp only [List.length_append, List.length_cons]
      omega

theorem WrittenMembers.length_lt : {ms : List (String × Json)} → {cs : List Char} →
    WrittenMembers ms cs → ms.length < cs.length
  | _, _, .ended _ => by simp
  | _, _, .more _ _ _ rest => by
      have others := rest.length_lt
      simp only [List.length_append, List.length_cons]
      omega

/-! ## Between items and members -/

theorem WrittenValue.exists_start {tree : Json} {cs : List Char} (written : WrittenValue tree cs)
    (more : Input) : ∃ g body, letters cs ++ more = g :: body ∧ isSpace g = false ∧
      g ≠ .char ']' := by
  obtain ⟨c, others, rfl, solid, open_⟩ := written.exists_cons
  refine ⟨.char c, letters others ++ more, rfl, solid, ?_⟩
  rintro ⟨⟩
  exact open_ rfl

variable {blank before after : List Char}

theorem moreItems_first {x : Json} {item : List Char} (space : Blank blank)
    (written : WrittenValue x item) (more : Input) :
    MoreItems true (bare (letters blank ++ (letters item ++ more))) true
      (letters item ++ more) := by
  obtain ⟨g, body, start, solid, open_⟩ := written.exists_start more
  rw [bare_blank space, start, bare_of_solid body solid]
  exact .first open_

theorem moreItems_comma {x : Json} {item : List Char} (spaceBefore : Blank before)
    (spaceAfter : Blank after) (written : WrittenValue x item) (more : Input) :
    MoreItems false
      (bare (letters before ++ .char ',' :: (letters after ++ (letters item ++ more)))) true
      (letters item ++ more) := by
  obtain ⟨g, body, start, solid, open_⟩ := written.exists_start more
  rw [bare_blank spaceBefore, bare_of_solid _ (by decide), start]
  refine .comma ?_ open_
  rw [bare_blank spaceAfter, bare_of_solid body solid]

theorem moreMembers_first (space : Blank blank) (more : Input) :
    MoreMembers true (bare (letters blank ++ .char '"' :: more)) true more := by
  rw [bare_blank space]
  exact .first

theorem moreMembers_comma (spaceBefore : Blank before) (spaceAfter : Blank after) (more : Input) :
    MoreMembers false (bare (letters before ++ .char ',' :: (letters after ++ .char '"' :: more)))
      true more := by
  rw [bare_blank spaceBefore, bare_of_solid _ (by decide)]
  apply MoreMembers.comma
  rw [bare_blank spaceAfter]
  rfl

/-! ## Reading -/

-- By recursion on how the text is written: what follows a value is arbitrary but for the end of a
-- number, so that it can be the rest of a container.
mutual

theorem on_value_of_written : {tree : Json} → {cs : List Char} → (most : Nat) → (rest : Input) →
    WrittenValue tree cs → tree.levels ≤ most → EndsNumber rest →
      (value most).on (letters cs ++ rest) = some (tree, rest)
  | _, _, most, rest, .null, _, _ => (on_value_iff most _).2 .null
  | _, _, most, rest, .yes, _, _ => (on_value_iff most _).2 .yes
  | _, _, most, rest, .no, _, _ => (on_value_iff most _).2 .no
  | _, _, most, rest, .number written, _, ends => by
      have read := on_number_of_written written ends
      obtain ⟨c, others, rfl, begins⟩ := written.exists_cons
      rw [letters_cons, List.cons_append] at read ⊢
      rw [on_value_iff, bare_of_solid _ (solid_of_beginsNumber begins)]
      exact .number begins read
  | _, _, most, rest, .string written, _, _ => by
      have read := on_stringBody written rest
      rw [on_value_iff]
      simp only [letters_cons, letters_append, List.cons_append, List.append_assoc, letters_nil,
        List.nil_append]
      exact .string read
  | _, _, 0, _, .emptyArray _, small, _ => absurd small (by decide)
  | _, _, most + 1, rest, .emptyArray space, _, _ => by
      rw [on_value_iff, letters_cons, letters_append, List.cons_append, List.append_assoc]
      refine .array rfl (on_items_ended ?_)
      rw [bare_blank space]
      rfl
  | _, _, 0, _, .array _ _ _, small, _ => absurd small (Nat.not_succ_le_zero _)
  | _, _, most + 1, rest, .array space first others, small, _ => by
      -- One level goes to the brackets, and each item takes a glyph off the clock.
      rw [levels, Nat.add_le_add_iff_right, itemsLevels, Nat.max_le] at small
      have item := on_value_of_written most _ first small.1 (others.endsNumber rest)
      obtain ⟨c, cs, start, -⟩ := first.exists_cons
      have enough := others.length_lt
      rw [on_value_iff]
      simp only [letters_cons, letters_append, List.cons_append, List.append_assoc]
      refine .array rfl ?_
      rw [on_items_more (moreItems_first space first _) item,
        on_items_of_written most _ rest others small.2]
      · rfl
      · simp only [start, letters, List.length_tail, List.length_append, List.length_map,
          List.length_cons]
        omega
  | _, _, 0, _, .emptyObject _, small, _ => absurd small (by decide)
  | _, _, most + 1, rest, .emptyObject space, _, _ => by
      rw [on_value_iff, letters_cons, letters_append, List.cons_append, List.append_assoc]
      refine .object_of_reverse (on_members_ended ?_)
      rw [bare_blank space]
      exact .ended
  | _, _, 0, _, .object _ _ _, small, _ => absurd small (Nat.not_succ_le_zero _)
  | _, _, most + 1, rest, .object space first others, small, _ => by
      rw [levels, Nat.add_le_add_iff_right, membersLevels, Nat.max_le] at small
      obtain ⟨key, afterKey, rfl, named, kept⟩ :=
        on_member_of_written most _ [] first small.1 (others.endsNumber rest)
      have enough := others.length_lt
      rw [on_value_iff]
      simp only [letters_cons, letters_append, List.cons_append, List.append_assoc]
      apply ValueAt.object_of_reverse
      rw [on_members_more (moreMembers_first space _) named, kept, Option.bind_some,
        on_members_of_written most _ rest _ others small.2]
      · simp
      · simp only [letters, List.length_tail, List.length_append, List.length_map,
          List.length_cons]
        omega

theorem on_items_of_written : {xs : List Json} → {cs : List Char} → (most : Nat) →
    (clock rest : Input) → WrittenItems xs cs → itemsLevels xs ≤ most →
      xs.length < clock.length →
        (itemsWithin (value most) clock false).on (letters cs ++ rest) = some (xs, rest)
  | _, _, _, _, _, .ended space, _, enough => by
      apply on_itemsWithin_ended (Nat.lt_of_le_of_lt (Nat.zero_le _) enough)
      rw [letters_append, List.append_assoc, bare_blank space]
      rfl
  | _, _, _, [], _, .more _ _ _ _, _, enough => absurd enough (Nat.not_lt_zero _)
  | _, _, most, g :: clock, rest, .more spaceBefore spaceAfter next others, small, enough => by
      rw [itemsLevels, Nat.max_le] at small
      have item := on_value_of_written most _ next small.1 (others.endsNumber rest)
      have later := on_items_of_written most clock rest others small.2
        (Nat.lt_of_succ_lt_succ enough)
      simp only [letters_cons, letters_append, List.cons_append, List.append_assoc]
      rw [on_itemsWithin_more (moreItems_comma spaceBefore spaceAfter next _) item, later]
      rfl

theorem on_member_of_written : {m : String × Json} → {cs : List Char} → (most : Nat) →
    (rest : Input) → (seen : List (String × Json)) → WrittenMember m cs → m.2.levels ≤ most →
      EndsNumber rest → ∃ named afterKey, cs = '"' :: named ∧
        stringBody.on (letters named ++ rest) = some (m.1, afterKey) ∧
        (keep (value most) m.1 seen).on afterKey = some (m :: seen, rest)
  | _, _, most, rest, seen,
    @WrittenMember.member _ v name before after value named spaceBefore spaceAfter written, small,
    ends => by
      -- Space before the value is dropped by the reader of values.
      have read : (Scan.value most).on (letters after ++ (letters value ++ rest)) =
          some (v, rest) := by
        rw [skipsSpace_value most, bare_blank spaceAfter, ← skipsSpace_value most]
        exact on_value_of_written most rest written small ends
      refine ⟨_, letters before ++ .char ':' :: (letters after ++ (letters value ++ rest)), rfl,
        ?_, on_keep (bare_blank spaceBefore _) read⟩
      simp only [letters_cons, letters_append, List.cons_append, List.append_assoc]
      exact on_stringBody named _

theorem on_members_of_written : {ms : List (String × Json)} → {cs : List Char} → (most : Nat) →
    (clock rest : Input) → (seen : List (String × Json)) → WrittenMembers ms cs →
      membersLevels ms ≤ most → ms.length < clock.length →
        (membersWithin (keep (value most)) clock false seen).on (letters cs ++ rest) =
          some (ms.reverse ++ seen, rest)
  | _, _, _, _, _, _, .ended space, _, enough => by
      apply on_membersWithin_ended (Nat.lt_of_le_of_lt (Nat.zero_le _) enough)
      rw [letters_append, List.append_assoc, bare_blank space]
      exact .ended
  | _, _, _, [], _, _, .more _ _ _ _, _, enough => absurd enough (Nat.not_lt_zero _)
  | _, _, most, g :: clock, rest, seen, .more spaceBefore spaceAfter next others, small,
      enough => by
      rw [membersLevels, Nat.max_le] at small
      obtain ⟨key, afterKey, rfl, named, kept⟩ :=
        on_member_of_written most _ seen next small.1 (others.endsNumber rest)
      have later := fun seen => on_members_of_written most clock rest seen others small.2
        (Nat.lt_of_succ_lt_succ enough)
      simp only [letters_cons, letters_append, List.cons_append, List.append_assoc]
      rw [on_membersWithin_more (moreMembers_comma spaceBefore spaceAfter _) named, kept,
        Option.bind_some, later]
      simp

end

/-! ## Whole documents -/

theorem endsNumber_space {blank : List Char} (space : Blank blank) :
    EndsNumber (letters blank) := by
  rw [← List.append_nil (letters blank)]
  exact endsNumber_blank space (by rintro _ ⟨⟩)

theorem on_value_of_document {tree : Json} {cs : List Char} {most : Nat}
    (written : WrittenDocument tree cs) (small : tree.levels ≤ most) :
    ∃ rest, (value most).on (letters cs) = some (tree, rest) ∧ bare rest = [] := by
  cases written with
  | @document before value after spaceBefore written spaceAfter =>
      refine ⟨letters after, ?_, ?_⟩
      · rw [letters_append, letters_append, skipsSpace_value most, bare_blank spaceBefore,
          ← skipsSpace_value most]
        exact on_value_of_written most _ written small (endsNumber_space spaceAfter)
      · rw [← List.append_nil (letters after), bare_blank spaceAfter]
        rfl

end HolderBond.Json
