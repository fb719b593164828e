import HolderBond.Proofs.Json.Skipping
import HolderBond.Shape.Reader
import HolderBond.Shape.Tree

/-!
# Readers that follow trees

Where some input begins with a value, a reader that follows a meaning of trees gives what is
meant by the value's tree, and leaves what the value leaves; where nothing is meant by the tree,
it refuses the input.  All readers of simple values are of this kind, and so are the readers of
arrays and objects when their parts are.
-/

set_option autoImplicit false

namespace HolderBond

open HolderBond.Json (Scan Input Error)
open HolderBond.Text (Glyph)

namespace Json.Scan

variable {α β σ : Type} {levels : Nat} {input rest : Input} {tree : Json}

/-- What is given where a tree was read, if anything is made of the tree. -/
def given (result : Except Error α) (rest : Input) : Option (α × Input) :=
  result.toOption.map fun a => (a, rest)

@[simp] theorem given_ok (a : α) (rest : Input) : given (.ok a) rest = some (a, rest) := rfl

@[simp] theorem given_error (e : Error) (rest : Input) :
    given (.error e : Except Error α) rest = none :=
  rfl

theorem given_eq_some {result : Except Error α} {rest left : Input} {a : α} :
    given result rest = some (a, left) ↔ result = .ok a ∧ rest = left := by
  cases result <;> simp

theorem given_map (result : Except Error α) (f : α → β) (rest : Input) :
    given (f <$> result) rest = (given result rest).map fun r => (f r.1, r.2) := by
  cases result <;> rfl

/-- A reader gives what is made of the tree of a value with so many levels. -/
def Follows (read : Scan α) (levels : Nat) (meaning : Json → Except Error α) : Prop :=
  ∀ input rest tree, (value levels).on input = some (tree, rest) →
    read.on input = given (meaning tree) rest

theorem Follows.map {read : Scan α} {meaning : Json → Except Error α}
    (follows : Follows read levels meaning) (f : α → β) :
    Follows (f <$> read) levels fun tree => f <$> meaning tree := by
  intro input rest tree got
  rw [on_map, follows input rest tree got, given_map]

theorem follows_value (levels : Nat) : Follows (value levels) levels .ok :=
  fun _ _ _ got => got

/-! ## Refusals -/

theorem on_mismatch (expected : String) (input : Input) :
    (mismatch expected : Scan α).on input = none := by
  unfold mismatch
  rw [on_bind, on_peek, Option.bind_some]
  dsimp only
  split <;> simp [on_ite]

/-! ## Simple values -/

theorem follows_text (levels : Nat) (expected : String) :
    Follows (text expected) levels fun
      | .string s => .ok s
      | tree => tree.mismatch expected := by
  intro input rest tree got
  rw [on_value_iff] at got
  unfold text
  rw [on_bind, on_peek, Option.bind_some]
  generalize bare input = start at got
  cases got with
  | string read => simpa using read
  | number begins read =>
      rw [List.head?_cons]
      dsimp only
      split
      · next same => cases same; exact absurd begins (by decide)
      · exact on_mismatch _ _
  | _ => exact on_mismatch _ _

theorem follows_flag (levels : Nat) : Follows flag levels fun
    | .bool b => .ok b
    | tree => tree.mismatch "a boolean" := by
  intro input rest tree got
  rw [on_value_iff] at got
  unfold flag
  rw [on_bind, on_peek, Option.bind_some]
  generalize bare input = start at got
  cases got with
  | yes => exact (on_word_pure _ _ _).2 ⟨rfl, rfl⟩
  | no => exact (on_word_pure _ _ _).2 ⟨rfl, rfl⟩
  | number begins read =>
      rw [List.head?_cons]
      dsimp only
      split
      · next same => cases same; exact absurd begins (by decide)
      · next same => cases same; exact absurd begins (by decide)
      · exact on_mismatch _ _
  | _ => exact on_mismatch _ _

theorem follows_unit (levels : Nat) : Follows unit levels fun
    | .null => .ok ()
    | tree => tree.mismatch "unit" := by
  intro input rest tree got
  rw [on_value_iff] at got
  unfold unit
  rw [on_bind, on_peek, Option.bind_some]
  generalize bare input = start at got
  cases got with
  | null => exact on_word_letters _ rest
  | number begins read =>
      rw [List.head?_cons]
      dsimp only
      split
      · next same => cases same; exact absurd begins (by decide)
      · exact on_mismatch _ _
  | _ => exact on_mismatch _ _

theorem follows_natural {u : Unsigned α} (levels : Nat) : Follows (natural u) levels fun
    | .number n => u.ofNumber n
    | tree => tree.mismatch u.name := by
  intro input rest tree got
  rw [on_value_iff] at got
  unfold natural
  rw [on_bind, on_peek, Option.bind_some]
  generalize bare input = start at got
  cases got with
  | number begins read => simp [begins, read, given]
  | _ => exact on_mismatch _ _

theorem follows_written {t : TextForm α} (levels : Nat) :
    Follows (written t) levels fun tree => tree.asWritten t := by
  intro input rest tree got
  unfold written
  rw [on_bind, follows_text levels "a string" input rest tree got]
  cases tree with
  | string s =>
      simp only [given_ok, Option.bind_some, Json.asWritten]
      cases t.read s <;> rfl
  | _ => rfl

/-! ## Containers -/

theorem on_itemsWithin_of_follows {item : Scan α} {meaning : Json → Except Error α}
    (follows : Follows item levels meaning) {clock : Input} {first : Bool} {xs : List Json}
    (read : (itemsWithin (value levels) clock first).on input = some (xs, rest)) :
    (itemsWithin item clock first).on input = given (xs.mapM meaning) rest := by
  induction clock generalizing first input xs with
  | nil => cases read
  | cons g clock ih =>
      cases itemsWithin_step read with
      | ended stop => exact on_itemsWithin_ended (Nat.succ_pos _) stop
      | @more _ _ next left _ x others goesOn itemRead later =>
          have itemMeant := follows _ _ _ itemRead
          rw [List.mapM_cons]
          cases means : meaning x with
          | error e =>
              rw [means] at itemMeant
              rw [on_itemsWithin_cons, (on_moreItems_iff first true).2 goesOn, Option.bind_some,
                if_pos rfl, itemMeant]
              rfl
          | ok a =>
              rw [means] at itemMeant
              rw [on_itemsWithin_more goesOn itemMeant, ih later]
              cases others.mapM meaning <;> rfl

theorem on_membersWithin_of_follows (member : String → σ → Scan σ)
    (step : σ → String × Json → Except Error σ)
    (follows : ∀ key state input body v left, bare input = .char ':' :: body →
      (value levels).on body = some (v, left) →
      (member key state).on input = given (step state (key, v)) left)
    {clock : Input} {first : Bool} {seen all : List (String × Json)}
    (read : (membersWithin (keep (value levels)) clock first seen).on input = some (all, rest)) :
    ∃ entries : List (String × Json), all = entries.reverse ++ seen ∧ ∀ state,
      (membersWithin member clock first state).on input = given (entries.foldlM step state) rest := by
  induction clock generalizing first input seen with
  | nil => cases read
  | cons g clock ih =>
      cases membersWithin_step read with
      | ended stop =>
          refine ⟨[], rfl, fun state => ?_⟩
          exact on_membersWithin_ended (Nat.succ_pos _) (stop ▸ .ended)
      | @more _ _ next afterKey left _ key _ _ goesOn named memberRead later =>
          obtain ⟨body, v, colonStart, valueRead, rfl⟩ := keep_cases memberRead
          obtain ⟨entries, same, others⟩ := ih later
          refine ⟨(key, v) :: entries, by simp [same], fun state => ?_⟩
          rw [on_membersWithin_more goesOn named,
            follows key state afterKey body v left colonStart valueRead, List.foldlM_cons]
          cases step state (key, v) with
          | error e => rfl
          | ok state => exact others state

theorem on_members_of_follows (member : String → σ → Scan σ)
    (step : σ → String × Json → Except Error σ)
    (follows : ∀ key state input body v left, bare input = .char ':' :: body →
      (value levels).on body = some (v, left) →
      (member key state).on input = given (step state (key, v)) left)
    {body : Input} {entries : List (String × Json)}
    (read : (members (keep (value levels)) []).on body = some (entries.reverse, rest)) (state : σ) :
    (members member state).on body = given (entries.foldlM step state) rest := by
  obtain ⟨others, same, meant⟩ := on_membersWithin_of_follows member step follows read
  have same : entries = others := by simpa using same
  rw [same]
  exact meant state

theorem follows_sequence {inside : Nat → Scan α} {meaning : Json → Except Error α}
    (expected : String)
    (array : ∀ deeper, levels = deeper + 1 → ∀ body xs rest,
      (items (value deeper)).on body = some (xs, rest) →
      (inside deeper).on body = given (meaning (.array xs)) rest)
    (other : ∀ tree, (∀ xs, tree ≠ .array xs) → (meaning tree).toOption = none) :
    Follows (sequence levels expected inside) levels meaning := by
  intro input rest tree got
  rw [on_value_iff] at got
  have refused : (∀ xs, tree ≠ .array xs) → given (meaning tree) rest = none := by
    intro noArray
    rw [given, other tree noArray]
    rfl
  unfold sequence
  rw [on_bind, on_peek, Option.bind_some]
  generalize bare input = start at got
  cases got with
  | array allowed read =>
      cases levels with
      | zero => cases allowed
      | succ deeper =>
          cases allowed
          rw [← array deeper rfl _ _ _ read]
          rfl
  | number begins read =>
      rw [refused (by simp), List.head?_cons]
      dsimp only
      split
      · next same => cases same; exact absurd begins (by decide)
      · exact on_mismatch _ _
  | _ =>
      rw [refused (by simp)]
      exact on_mismatch _ _

theorem follows_mapping {inside : Nat → Scan α} {meaning : Json → Except Error α}
    (expected : String)
    (object : ∀ deeper, levels = deeper + 1 → ∀ body entries rest,
      (members (keep (value deeper)) []).on body = some (entries.reverse, rest) →
      (inside deeper).on body = given (meaning (.object entries)) rest)
    (other : ∀ tree, (∀ ms, tree ≠ .object ms) → (meaning tree).toOption = none) :
    Follows (mapping levels expected inside) levels meaning := by
  intro input rest tree got
  rw [on_value_iff] at got
  have refused : (∀ ms, tree ≠ .object ms) → given (meaning tree) rest = none := by
    intro noObject
    rw [given, other tree noObject]
    rfl
  unfold mapping
  rw [on_bind, on_peek, Option.bind_some]
  generalize bare input = start at got
  cases got with
  | @object body _ item reversed allowed read =>
      cases levels with
      | zero => cases allowed
      | succ deeper =>
          cases allowed
          rw [← List.reverse_reverse reversed] at read
          rw [← object deeper rfl _ _ _ read]
          rfl
  | number begins read =>
      rw [refused (by simp), List.head?_cons]
      dsimp only
      split
      · next same => cases same; exact absurd begins (by decide)
      · exact on_mismatch _ _
  | _ =>
      rw [refused (by simp)]
      exact on_mismatch _ _

theorem on_dropMember {state : σ} {body : Input} (start : bare input = .char ':' :: body)
    (read : (value levels).on body = some (tree, rest)) :
    (dropMember state).on input = some (state, rest) := by
  rw [dropMember, on_bind, on_colon_iff.2 start, Option.bind_some, on_bind, on_skipAny read]
  rfl

def closing (a : α) : Scan α := do
  match ← peek with
  | none => fail .endInObject
  | some (.char '\x7d') =>
      skip
      return a
  | some _ => fail .expectedValue

def variant (c : Choice α) : Scan α := do
  let a ← c.ofName (← text "variant identifier")
  colon
  unit
  closing a

theorem on_text_of_quote {expected : String} {body : Input} (start : bare input = .char '"' :: body) :
    (text expected).on input = stringBody.on body := by
  simp [text, start]

theorem on_text_of_brace {expected : String} {body : Input}
    (start : bare input = .char '\x7d' :: body) : (text expected).on input = none := by
  simp [text, start, on_mismatch]

theorem exists_entries {clock : Input} {first : Bool} {seen all : List (String × Json)}
    (read : (membersWithin (keep (value levels)) clock first seen).on input = some (all, rest)) :
    ∃ entries : List (String × Json), all = entries.reverse ++ seen := by
  obtain ⟨entries, same, -⟩ := on_membersWithin_of_follows (fun _ () => fail .endInValue)
    (fun _ _ => .error .endInValue) (fun _ _ _ _ _ _ _ _ => rfl) read
  exact ⟨entries, same⟩

theorem on_closing (a : α) {clock : Input} {seen all : List (String × Json)}
    (read : (membersWithin (keep (value levels)) clock false seen).on input = some (all, rest)) :
    (all = seen ∧ (closing a).on input = some (a, rest)) ∨
      ((closing a).on input = none ∧ ∃ entry entries, all = List.reverse (entry :: entries) ++ seen) := by
  unfold closing
  rw [on_bind, on_peek, Option.bind_some]
  cases membersWithin_step read with
  | ended stop =>
      rw [stop]
      exact Or.inl ⟨rfl, rfl⟩
  | @more _ _ _ _ _ _ key _ _ goesOn named memberRead later =>
      obtain ⟨-, v, -, -, rfl⟩ := keep_cases memberRead
      obtain ⟨entries, same⟩ := exists_entries later
      generalize bare input = start at goesOn
      cases goesOn with
      | comma => exact Or.inr ⟨rfl, (key, v), entries, by simp [same]⟩

theorem given_asChoice_one (c : Choice α) (key : String) (v : Json) :
    given ((Json.object [(key, v)]).asChoice c) rest = given (c.ofName key >>= fun a => match v with
      | .null => .ok a
      | tree => tree.mismatch "unit") rest :=
  rfl

/-- An object stands for a name only if the name is its one key and its value is null. -/
theorem on_variant {c : Choice α} {body : Input} {entries : List (String × Json)}
    (read : (members (keep (value levels)) []).on body = some (entries.reverse, rest)) :
    (variant c).on body = given ((Json.object entries).asChoice c) rest := by
  unfold variant
  rw [on_bind]
  generalize turned : entries.reverse = all at read
  cases membersWithin_step read with
  | ended stop =>
      rw [on_text_of_brace stop, List.reverse_eq_nil_iff.1 turned]
      rfl
  | @more g clock next afterKey left _ key _ _ goesOn named memberRead later =>
      obtain ⟨inner, v, colonStart, valueRead, rfl⟩ := keep_cases memberRead
      have unitRead := follows_unit levels inner left v valueRead
      generalize start : bare (g :: clock) = text at goesOn
      cases goesOn with
      | first =>
          rw [on_text_of_quote start, named, Option.bind_some, on_bind, on_ofExcept]
          cases name : c.ofName key with
          | error e =>
              obtain ⟨others, same⟩ := exists_entries later
              have split : entries = (key, v) :: others := by
                simpa using congrArg List.reverse (turned.trans same)
              rw [split]
              cases others with
              | nil => rw [given_asChoice_one, name]; rfl
              | cons entry others => rfl
          | ok a =>
              simp only [Except.toOption, Option.map_some, Option.bind_some]
              rw [on_bind, on_colon_iff.2 colonStart, Option.bind_some, on_bind, unitRead]
              rcases on_closing a later with ⟨same, ends⟩ | ⟨goesOn, entry, others, same⟩
              · have split : entries = [(key, v)] := by
                  simpa using congrArg List.reverse (turned.trans same)
                rw [split, given_asChoice_one, name]
                cases v with
                | null => exact ends
                | _ => rfl
              · have split : entries = (key, v) :: entry :: others := by
                  simpa using congrArg List.reverse (turned.trans same)
                rw [split]
                cases v with
                | null => exact goesOn
                | _ => rfl

theorem follows_choice {c : Choice α} (levels : Nat) :
    Follows (choice c levels) levels fun tree => tree.asChoice c := by
  intro input rest tree got
  rw [on_value_iff] at got
  unfold choice
  rw [on_bind, on_peek, Option.bind_some]
  generalize bare input = start at got
  cases got with
  | string read => simp [read, given, Json.asChoice]
  | @object body _ item reversed allowed read =>
      cases levels with
      | zero => cases allowed
      | succ deeper =>
          cases allowed
          rw [← List.reverse_reverse reversed] at read
          exact on_variant read
  | number begins read =>
      obtain ⟨noNull, noTrue, noFalse, noQuote, noArray, noObject⟩ := ne_of_beginsNumber begins
      simp [given, Json.asChoice, Json.mismatch]
      rfl
  | _ => rfl

end Json.Scan

end HolderBond
