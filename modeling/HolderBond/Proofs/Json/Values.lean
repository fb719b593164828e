import HolderBond.Proofs.Json.Reading

/-!
# How values are read

Which reader a value is handed to depends on its first glyph alone.  `ValueAt` says so once,
as one case per kind of value; what is read, and whatever else is read in its place, is settled
by these cases.
-/

set_option autoImplicit false

namespace HolderBond.Json.Scan

open HolderBond.Text (Glyph)

variable {α β σ : Type} {input rest : Input}

/-! ## Leading space -/

/-- A reader that drops space before it looks at anything. -/
def SkipsSpace (read : Scan α) : Prop :=
  ∀ input, read.on input = read.on (bare input)

theorem skipsSpace_of_peek (next : Option Glyph → Scan α) : SkipsSpace (peek >>= next) := by
  intro input
  rw [on_bind, on_bind, on_peek, on_peek, bare_bare]

theorem SkipsSpace.bind {read : Scan α} (skips : SkipsSpace read) (next : α → Scan β) :
    SkipsSpace (read >>= next) := by
  intro input
  rw [on_bind, on_bind, skips input]

theorem length_bare_le (input : Input) : (bare input).length ≤ input.length :=
  (List.dropWhile_sublist _).length_le

/-! ## Beginnings -/

theorem solid_of_beginsNumber {g : Glyph} (begins : beginsNumber g = true) : isSpace g = false := by
  cases g with
  | malformed bytes => simp [beginsNumber, digit?] at begins
  | char c =>
      simp only [isSpace, Bool.or_eq_false_iff, beq_eq_false_iff_ne]
      refine ⟨⟨⟨?_, ?_⟩, ?_⟩, ?_⟩ <;> rintro rfl <;> exact absurd begins (by decide)

theorem ne_of_beginsNumber {g : Glyph} (begins : beginsNumber g = true) :
    g ≠ .char 'n' ∧ g ≠ .char 't' ∧ g ≠ .char 'f' ∧ g ≠ .char '"' ∧ g ≠ .char '[' ∧
      g ≠ .char '\x7b' := by
  refine ⟨?_, ?_, ?_, ?_, ?_, ?_⟩ <;> rintro rfl <;> exact absurd begins (by decide)

/-- A member kept with its key in front of those seen before. -/
def keep (item : Scan Json) (key : String) (seen : List (String × Json)) :
    Scan (List (String × Json)) := do
  colon
  let value ← item
  return (key, value) :: seen

/-- What a value reader gives: the kinds of values by the glyph that they begin with. -/
inductive ValueAt (nested : Option (Scan Json)) : Input → Json → Input → Prop where
  | null {rest : Input} : ValueAt nested (letters ['n', 'u', 'l', 'l'] ++ rest) .null rest
  | yes {rest : Input} : ValueAt nested (letters ['t', 'r', 'u', 'e'] ++ rest) (.bool true) rest
  | no {rest : Input} :
      ValueAt nested (letters ['f', 'a', 'l', 's', 'e'] ++ rest) (.bool false) rest
  | string {body rest : Input} {s : String} (read : stringBody.on body = some (s, rest)) :
      ValueAt nested (.char '"' :: body) (.string s) rest
  | array {body rest : Input} {item : Scan Json} {xs : List Json} (allowed : nested = some item)
      (read : (items item).on body = some (xs, rest)) :
      ValueAt nested (.char '[' :: body) (.array xs) rest
  | object {body rest : Input} {item : Scan Json} {reversed : List (String × Json)}
      (allowed : nested = some item)
      (read : (members (keep item) []).on body = some (reversed, rest)) :
      ValueAt nested (.char '\x7b' :: body) (.object reversed.reverse) rest
  | number {g : Glyph} {body rest : Input} {n : JsonNumber} (begins : beginsNumber g = true)
      (read : number.on (g :: body) = some (n, rest)) :
      ValueAt nested (g :: body) (.number n) rest

theorem on_word_pure (cs : List Char) (a b : α) :
    (do word cs; return a : Scan α).on input = some (b, rest) ↔
      input = letters cs ++ rest ∧ b = a := by
  rw [on_bind, Option.bind_eq_some_iff]
  constructor
  · rintro ⟨result, read, same⟩
    rw [on_word] at read
    simp only [on_pure, Option.some.injEq, Prod.mk.injEq] at same
    obtain ⟨rfl, rfl⟩ := same
    exact ⟨read, rfl⟩
  · rintro ⟨rfl, rfl⟩
    exact ⟨((), rest), on_word_letters cs rest, rfl⟩

theorem valueAt_of_on {nested : Option (Scan Json)} {tree : Json}
    (read : (valueOver nested).on input = some (tree, rest)) :
    ValueAt nested (bare input) tree rest := by
  unfold valueOver at read
  rw [on_bind, on_peek, Option.bind_some] at read
  dsimp only at read
  cases start : bare input with
  | nil =>
      rw [start] at read
      cases read
  | cons g body =>
      rw [start, List.head?_cons] at read
      split at read
      · next none => cases none
      · next same =>
          cases same
          obtain ⟨split, rfl⟩ := (on_word_pure _ _ _).1 read
          rw [split]
          exact .null
      · next same =>
          cases same
          obtain ⟨split, rfl⟩ := (on_word_pure _ _ _).1 read
          rw [split]
          exact .yes
      · next same =>
          cases same
          obtain ⟨split, rfl⟩ := (on_word_pure _ _ _).1 read
          rw [split]
          exact .no
      · next same =>
          cases same
          simp only [on_bind, on_skip, on_pure, Option.bind_some, List.drop_one, List.tail_cons,
            Option.bind_eq_some_iff, Option.some.injEq, Prod.mk.injEq] at read
          obtain ⟨⟨s, left⟩, got, rfl, rfl⟩ := read
          exact .string got
      · next same =>
          cases same
          split at read
          · cases read
          · next item =>
              simp only [on_bind, on_skip, on_pure, Option.bind_some, List.drop_one,
                List.tail_cons, Option.bind_eq_some_iff, Option.some.injEq, Prod.mk.injEq] at read
              obtain ⟨⟨xs, left⟩, got, rfl, rfl⟩ := read
              exact .array rfl got
      · next same =>
          cases same
          split at read
          · cases read
          · next item =>
              rw [on_bind, on_skip, Option.bind_some, on_bind, Option.bind_eq_some_iff] at read
              obtain ⟨⟨reversed, left⟩, got, same⟩ := read
              simp only [on_pure, Option.some.injEq, Prod.mk.injEq] at same
              obtain ⟨rfl, rfl⟩ := same
              exact .object rfl got
      · next h same =>
          cases same
          rw [on_ite] at read
          split at read
          · next begins =>
              rw [on_map, Option.map_eq_some_iff] at read
              obtain ⟨⟨n, left⟩, got, same⟩ := read
              cases same
              exact .number begins got
          · cases read

theorem on_of_valueAt {nested : Option (Scan Json)} {tree : Json}
    (value : ValueAt nested (bare input) tree rest) :
    (valueOver nested).on input = some (tree, rest) := by
  generalize start : bare input = text at value
  unfold valueOver
  rw [on_bind, on_peek, Option.bind_some, start]
  cases value with
  | null => exact (on_word_pure _ _ _).2 ⟨rfl, rfl⟩
  | yes => exact (on_word_pure _ _ _).2 ⟨rfl, rfl⟩
  | no => exact (on_word_pure _ _ _).2 ⟨rfl, rfl⟩
  | string read => simp [read]
  | array allowed read => simp [allowed, read]
  | @object body _ item reversed allowed read =>
      subst allowed
      have inside : (do
          let entries ← members (keep item) []
          return .object entries.reverse : Scan Json).on body =
          some (.object reversed.reverse, rest) := by
        rw [on_bind, read]
        rfl
      exact inside
  | number begins read =>
      obtain ⟨noNull, noTrue, noFalse, noQuote, noArray, noObject⟩ := ne_of_beginsNumber begins
      simp [begins, read]

theorem on_valueOver_iff (nested : Option (Scan Json)) (tree : Json) :
    (valueOver nested).on input = some (tree, rest) ↔ ValueAt nested (bare input) tree rest :=
  ⟨valueAt_of_on, on_of_valueAt⟩

def nested : Nat → Option (Scan Json)
  | 0 => none
  | levels + 1 => some (value levels)

theorem value_eq (levels : Nat) : value levels = valueOver (nested levels) := by
  cases levels <;> rfl

/-- A value as it is read, by its kind. -/
theorem on_value_iff (levels : Nat) (tree : Json) :
    (value levels).on input = some (tree, rest) ↔
      ValueAt (nested levels) (bare input) tree rest := by
  rw [value_eq, on_valueOver_iff]

theorem skipsSpace_value (levels : Nat) : SkipsSpace (value levels) := by
  rw [value_eq]
  exact skipsSpace_of_peek _

/-! ## Values by how they begin -/

section Beginnings

variable {body left : Input} {k : Json} {most : Nat}

theorem number_of_on_value {g : Glyph} (begins : beginsNumber g = true)
    (read : (value most).on (g :: body) = some (k, left)) :
    ∃ n, k = .number n ∧ number.on (g :: body) = some (n, left) := by
  have kind := (on_value_iff most k).1 read
  rw [bare_of_solid body (solid_of_beginsNumber begins)] at kind
  obtain ⟨noNull, noYes, noNo, noString, noArray, noObject⟩ := ne_of_beginsNumber begins
  cases kind with
  | null => exact absurd rfl noNull
  | yes => exact absurd rfl noYes
  | no => exact absurd rfl noNo
  | string => exact absurd rfl noString
  | array => exact absurd rfl noArray
  | object => exact absurd rfl noObject
  | number _ read => exact ⟨_, rfl, read⟩

theorem array_of_on_value (read : (value most).on (.char '[' :: body) = some (k, left)) :
    ∃ (deeper : Nat) (xs : List Json), most = deeper + 1 ∧ k = .array xs ∧
      (items (value deeper)).on body = some (xs, left) := by
  have kind := (on_value_iff most k).1 read
  rw [bare_of_solid body (by decide)] at kind
  cases kind with
  | array allowed read =>
      cases most with
      | zero => cases allowed
      | succ deeper =>
          cases allowed
          exact ⟨deeper, _, rfl, rfl, read⟩
  | number begins => exact absurd begins (by decide)

theorem object_of_on_value (read : (value most).on (.char '\x7b' :: body) = some (k, left)) :
    ∃ (deeper : Nat) (reversed : List (String × Json)), most = deeper + 1 ∧
      k = .object reversed.reverse ∧
      (members (keep (value deeper)) []).on body = some (reversed, left) := by
  have kind := (on_value_iff most k).1 read
  rw [bare_of_solid body (by decide)] at kind
  cases kind with
  | object allowed read =>
      cases most with
      | zero => cases allowed
      | succ deeper =>
          cases allowed
          exact ⟨deeper, _, rfl, rfl, read⟩
  | number begins => exact absurd begins (by decide)

end Beginnings

theorem ValueAt.bracket_iff {tree : Json} {nested : Option (Scan Json)} (value : ValueAt nested input tree rest) :
    input.head? = some (.char '[') ↔ ∃ xs, tree = .array xs := by
  cases value with
  | array allowed read => simp
  | number begins read =>
      obtain ⟨-, -, -, -, noArray, -⟩ := ne_of_beginsNumber begins
      simp [noArray]
  | _ => simp

theorem ValueAt.null_iff {tree : Json} {nested : Option (Scan Json)} (value : ValueAt nested input tree rest) :
    input.head? = some (.char 'n') ↔ tree = .null := by
  cases value with
  | number begins read =>
      obtain ⟨noNull, -, -, -, -, -⟩ := ne_of_beginsNumber begins
      simp [noNull]
  | _ => simp

/-! ## Between items and members -/

/-- Whether an array goes on, and where: at its end, before its first item, after a comma. -/
inductive MoreItems : Bool → Input → Bool → Input → Prop where
  | ended {first : Bool} {rest : Input} :
      MoreItems first (.char ']' :: rest) false (.char ']' :: rest)
  | first {g : Glyph} {rest : Input} (other : g ≠ .char ']') :
      MoreItems true (g :: rest) true (g :: rest)
  | comma {g : Glyph} {more rest : Input} (start : bare more = g :: rest)
      (other : g ≠ .char ']') : MoreItems false (.char ',' :: more) true (g :: rest)

theorem on_moreItems_iff (first goesOn : Bool) :
    (moreItems first).on input = some (goesOn, rest) ↔
      MoreItems first (bare input) goesOn rest := by
  unfold moreItems
  rw [on_bind, on_peek, Option.bind_some]
  dsimp only
  generalize bare input = text
  constructor
  · intro read
    cases text with
    | nil => cases read
    | cons g body =>
        rw [List.head?_cons] at read
        split at read
        · next none => cases none
        · next same =>
            cases same
            cases read
            exact .ended
        · next other same =>
            cases same
            rw [on_ite] at read
            split at read
            · next isFirst =>
                cases read
                rw [isFirst]
                exact .first other
            · next notFirst =>
                rw [on_ite] at read
                split at read
                · next comma =>
                    rw [on_bind, on_skip, Option.bind_some, on_bind, on_peek, Option.bind_some,
                      List.drop_one, List.tail_cons] at read
                    dsimp only at read
                    cases start : bare body with
                    | nil =>
                        rw [start] at read
                        cases read
                    | cons h others =>
                        rw [start, List.head?_cons] at read
                        split at read
                        · next none => cases none
                        · cases read
                        · next open_ same =>
                            cases same
                            cases read
                            rw [comma, Bool.eq_false_iff.2 notFirst]
                            exact .comma start open_
                · cases read
  · intro more
    cases more with
    | ended => rfl
    | first other =>
        rw [List.head?_cons]
        split
        · next none => cases none
        · next same => cases same; exact absurd rfl other
        · next same => rfl
    | comma start other => simp [start]

inductive MoreMembers : Bool → Input → Bool → Input → Prop where
  | ended {first : Bool} {rest : Input} : MoreMembers first (.char '\x7d' :: rest) false rest
  | first {rest : Input} : MoreMembers true (.char '"' :: rest) true rest
  | comma {more rest : Input} (start : bare more = .char '"' :: rest) :
      MoreMembers false (.char ',' :: more) true rest

theorem on_moreMembers_iff (first goesOn : Bool) :
    (moreMembers first).on input = some (goesOn, rest) ↔
      MoreMembers first (bare input) goesOn rest := by
  unfold moreMembers
  rw [on_bind, on_peek, Option.bind_some]
  dsimp only
  generalize bare input = text
  constructor
  · intro read
    cases text with
    | nil => cases read
    | cons g body =>
        rw [List.head?_cons] at read
        split at read
        · next none => cases none
        · next same =>
            cases same
            cases read
            exact .ended
        · next other same =>
            cases same
            rw [on_ite] at read
            split at read
            · next isFirst =>
                rw [on_ite] at read
                split at read
                · next quote =>
                    cases read
                    rw [isFirst, quote]
                    exact .first
                · cases read
            · next notFirst =>
                rw [on_ite] at read
                split at read
                · next comma =>
                    rw [on_bind, on_skip, Option.bind_some, on_bind, on_peek, Option.bind_some,
                      List.drop_one, List.tail_cons] at read
                    dsimp only at read
                    cases start : bare body with
                    | nil =>
                        rw [start] at read
                        cases read
                    | cons h others =>
                        rw [start, List.head?_cons] at read
                        split at read
                        · next none => cases none
                        · next same =>
                            cases same
                            cases read
                            rw [comma, Bool.eq_false_iff.2 notFirst]
                            exact .comma start
                        · cases read
                        · cases read
                · cases read
  · intro more
    cases more with
    | ended => rfl
    | first => rfl
    | comma start => simp [start]

theorem on_colon_iff : colon.on input = some ((), rest) ↔ bare input = .char ':' :: rest := by
  unfold colon
  rw [on_bind, on_peek, Option.bind_some]
  dsimp only
  generalize bare input = text
  cases text with
  | nil => simp
  | cons g body =>
      rw [List.head?_cons]
      split
      · next none => cases none
      · next same =>
          cases same
          simp
      · next other same =>
          cases same
          have distinct : g ≠ .char ':' := other
          simp [distinct]

/-! ## Loops -/

theorem on_itemsWithin_cons (item : Scan α) (g : Glyph) (clock : Input) (first : Bool)
    (input : Input) :
    (itemsWithin item (g :: clock) first).on input =
      ((moreItems first).on input).bind fun more =>
        if more.1 then
          (item.on more.2).bind fun a =>
            ((itemsWithin item clock false).on a.2).map fun others => (a.1 :: others.1, others.2)
        else some ([], more.2.drop 1) := by
  rw [itemsWithin, on_bind]
  congr 1
  funext more
  rw [on_ite]
  split
  · rw [on_bind]
    congr 1
    funext a
    rw [on_bind]
    cases (itemsWithin item clock false).on a.2 <;> rfl
  · rfl

theorem on_membersWithin_cons (member : String → σ → Scan σ) (g : Glyph) (clock : Input)
    (first : Bool) (state : σ) (input : Input) :
    (membersWithin member (g :: clock) first state).on input =
      ((moreMembers first).on input).bind fun more =>
        if more.1 then
          (stringBody.on more.2).bind fun key =>
            ((member key.1 state).on key.2).bind fun next =>
              (membersWithin member clock false next.1).on next.2
        else some (state, more.2) := by
  rw [membersWithin, on_bind]
  congr 1
  funext more
  rw [on_ite]
  split
  · rw [on_bind]
    congr 1
    funext key
    rw [on_bind]
  · rfl

/-- One step through the items of an array: its end, or an item and the others after it. -/
inductive ItemsStep (item : Scan α) (first : Bool) (input : Input) :
    Input → List α → Input → Prop where
  | ended {g : Glyph} {clock rest : Input} (stop : bare input = .char ']' :: rest) :
      ItemsStep item first input (g :: clock) [] rest
  | more {g : Glyph} {clock next left rest : Input} {a : α} {others : List α}
      (goesOn : MoreItems first (bare input) true next) (read : item.on next = some (a, left))
      (later : (itemsWithin item clock false).on left = some (others, rest)) :
      ItemsStep item first input (g :: clock) (a :: others) rest

theorem itemsWithin_step {item : Scan α} {clock : Input} {first : Bool} {xs : List α}
    (read : (itemsWithin item clock first).on input = some (xs, rest)) :
    ItemsStep item first input clock xs rest := by
  cases clock with
  | nil => cases read
  | cons g clock =>
      rw [on_itemsWithin_cons, Option.bind_eq_some_iff] at read
      obtain ⟨⟨goesOn, next⟩, step, read⟩ := read
      rw [on_moreItems_iff] at step
      cases goesOn with
      | false =>
          generalize start : bare input = text at step
          cases step
          cases read
          exact .ended start
      | true =>
          rw [if_pos rfl, Option.bind_eq_some_iff] at read
          obtain ⟨⟨a, left⟩, itemRead, read⟩ := read
          rw [Option.map_eq_some_iff] at read
          obtain ⟨⟨others, last⟩, later, same⟩ := read
          cases same
          exact .more step itemRead later

inductive MembersStep (member : String → σ → Scan σ) (first : Bool) (input : Input) (state : σ) :
    Input → σ → Input → Prop where
  | ended {g : Glyph} {clock rest : Input} (stop : bare input = .char '\x7d' :: rest) :
      MembersStep member first input state (g :: clock) state rest
  | more {g : Glyph} {clock next afterKey left rest : Input} {key : String} {then_ final : σ}
      (goesOn : MoreMembers first (bare input) true next)
      (named : stringBody.on next = some (key, afterKey))
      (read : (member key state).on afterKey = some (then_, left))
      (later : (membersWithin member clock false then_).on left = some (final, rest)) :
      MembersStep member first input state (g :: clock) final rest

theorem membersWithin_step {member : String → σ → Scan σ} {clock : Input} {first : Bool}
    {state final : σ}
    (read : (membersWithin member clock first state).on input = some (final, rest)) :
    MembersStep member first input state clock final rest := by
  cases clock with
  | nil => cases read
  | cons g clock =>
      rw [on_membersWithin_cons, Option.bind_eq_some_iff] at read
      obtain ⟨⟨goesOn, next⟩, step, read⟩ := read
      rw [on_moreMembers_iff] at step
      cases goesOn with
      | false =>
          generalize start : bare input = text at step
          cases step
          cases read
          exact .ended start
      | true =>
          rw [if_pos rfl, Option.bind_eq_some_iff] at read
          obtain ⟨⟨key, afterKey⟩, named, read⟩ := read
          rw [Option.bind_eq_some_iff] at read
          obtain ⟨⟨then_, left⟩, memberRead, later⟩ := read
          exact .more step named memberRead later

theorem on_itemsWithin_ended {item : Scan α} {clock : Input} {first : Bool}
    (enough : 0 < clock.length) (start : bare input = .char ']' :: rest) :
    (itemsWithin item clock first).on input = some ([], rest) := by
  obtain ⟨g, clock, rfl⟩ := List.exists_cons_of_length_pos enough
  have ended : (moreItems first).on input = some (false, .char ']' :: rest) := by
    rw [on_moreItems_iff, start]
    exact .ended
  rw [on_itemsWithin_cons, ended]
  rfl

theorem on_itemsWithin_more {item : Scan α} {g : Glyph} {clock next left : Input} {first : Bool}
    {a : α} (more : MoreItems first (bare input) true next)
    (read : item.on next = some (a, left)) :
    (itemsWithin item (g :: clock) first).on input =
      ((itemsWithin item clock false).on left).map fun others => (a :: others.1, others.2) := by
  rw [on_itemsWithin_cons, (on_moreItems_iff first true).2 more, Option.bind_some, if_pos rfl, read,
    Option.bind_some]

theorem on_membersWithin_ended {member : String → σ → Scan σ} {clock : Input} {first : Bool}
    {state : σ} (enough : 0 < clock.length) (ended : MoreMembers first (bare input) false rest) :
    (membersWithin member clock first state).on input = some (state, rest) := by
  obtain ⟨g, clock, rfl⟩ := List.exists_cons_of_length_pos enough
  rw [on_membersWithin_cons, (on_moreMembers_iff first false).2 ended]
  rfl

theorem on_membersWithin_more {member : String → σ → Scan σ} {g : Glyph}
    {clock next afterKey : Input} {first : Bool} {state : σ} {key : String}
    (more : MoreMembers first (bare input) true next)
    (named : stringBody.on next = some (key, afterKey)) :
    (membersWithin member (g :: clock) first state).on input =
      ((member key state).on afterKey).bind fun next =>
        (membersWithin member clock false next.1).on next.2 := by
  rw [on_membersWithin_cons, (on_moreMembers_iff first true).2 more, Option.bind_some, if_pos rfl,
    named, Option.bind_some]

theorem on_keep {item : Scan Json} {key : String} {seen : List (String × Json)} {body left : Input}
    {v : Json} (start : bare input = .char ':' :: body) (read : item.on body = some (v, left)) :
    (keep item key seen).on input = some ((key, v) :: seen, left) := by
  rw [keep, on_bind, on_colon_iff.2 start, Option.bind_some, on_bind, read]
  rfl

theorem keep_cases {item : Scan Json} {key : String} {seen entries : List (String × Json)}
    (read : (keep item key seen).on input = some (entries, rest)) :
    ∃ body v, bare input = .char ':' :: body ∧ item.on body = some (v, rest) ∧
      entries = (key, v) :: seen := by
  rw [keep, on_bind, Option.bind_eq_some_iff] at read
  obtain ⟨⟨⟨⟩, body⟩, start, read⟩ := read
  obtain ⟨v, left, read, same⟩ := on_bind_eq_some.1 read
  cases same
  exact ⟨body, v, on_colon_iff.1 start, read, rfl⟩

theorem on_items (item : Scan α) (input : Input) :
    (items item).on input = (itemsWithin item input true).on input :=
  rfl

theorem on_members (member : String → σ → Scan σ) (state : σ) (input : Input) :
    (members member state).on input = (membersWithin member input true state).on input :=
  rfl

theorem exists_cons_of_bare {g : Glyph} (start : bare input = g :: rest) :
    ∃ h body, input = h :: body := by
  cases input with
  | nil => cases start
  | cons h body => exact ⟨h, body, rfl⟩

theorem MoreItems.exists_cons {first goesOn : Bool} {next : Input}
    (more : MoreItems first (bare input) goesOn next) : ∃ h body, input = h :: body := by
  generalize start : bare input = text at more
  cases more <;> exact exists_cons_of_bare start

theorem MoreMembers.exists_cons {first goesOn : Bool} {next : Input}
    (more : MoreMembers first (bare input) goesOn next) : ∃ h body, input = h :: body := by
  generalize start : bare input = text at more
  cases more <;> exact exists_cons_of_bare start

theorem on_items_ended {item : Scan α} (start : bare input = .char ']' :: rest) :
    (items item).on input = some ([], rest) := by
  obtain ⟨g, body, rfl⟩ := exists_cons_of_bare start
  exact on_itemsWithin_ended (Nat.succ_pos _) start

theorem on_items_more {item : Scan α} {next left : Input} {a : α}
    (more : MoreItems true (bare input) true next) (read : item.on next = some (a, left)) :
    (items item).on input =
      ((itemsWithin item input.tail false).on left).map fun others =>
        (a :: others.1, others.2) := by
  obtain ⟨g, body, rfl⟩ := more.exists_cons
  rw [on_items, on_itemsWithin_more more read, List.tail_cons]

theorem on_members_ended {member : String → σ → Scan σ} {state : σ}
    (ended : MoreMembers true (bare input) false rest) :
    (members member state).on input = some (state, rest) := by
  obtain ⟨g, body, rfl⟩ := ended.exists_cons
  exact on_membersWithin_ended (Nat.succ_pos _) ended

theorem on_members_more {member : String → σ → Scan σ} {next afterKey : Input} {state : σ}
    {key : String} (more : MoreMembers true (bare input) true next)
    (named : stringBody.on next = some (key, afterKey)) :
    (members member state).on input =
      ((member key state).on afterKey).bind fun next =>
        (membersWithin member input.tail false next.1).on next.2 := by
  obtain ⟨g, body, rfl⟩ := more.exists_cons
  rw [on_members, on_membersWithin_more more named, List.tail_cons]

/-- Members come out in reverse. -/
theorem ValueAt.object_of_reverse {item : Scan Json} {body : Input} {ms : List (String × Json)}
    (read : (members (keep item) []).on body = some (ms.reverse, rest)) :
    ValueAt (some item) (.char '\x7b' :: body) (.object ms) rest := by
  rw [← List.reverse_reverse ms]
  exact .object rfl read

end HolderBond.Json.Scan
