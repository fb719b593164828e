import HolderBond.Proofs.Json.Accepted

/-!
# Objects cut into their members

The members of an object with their values as they are spelled, each value ending where passing
over it ends.  This does not ask whether the values can be read, so it says of any text that some
reader accepts where in it the value of a key stands.
-/

set_option autoImplicit false

namespace HolderBond.Json.Scan

open HolderBond.Text (Glyph)

variable {α : Type}

/-! ## Passing over values -/

theorem leavesEnd_peek : LeavesEnd peek := by
  rintro input rest _ ⟨⟩
  exact List.dropWhile_suffix _

theorem leavesEnd_word (cs : List Char) : LeavesEnd (word cs) := by
  intro input rest a read
  have split : input = letters cs ++ rest := (on_word cs input (a, rest)).1 read
  exact split ▸ List.suffix_append _ _

theorem leavesEnd_skipStringRest (clock : Input) : LeavesEnd (skipStringRest clock) := by
  induction clock with
  | nil => exact leavesEnd_fail _
  | cons g clock ih =>
      intro input rest a read
      unfold skipStringRest at read
      rw [on_bind, on_get, Option.bind_some] at read
      dsimp only at read
      split at read
      · cases read
      · exact ih.later (List.suffix_cons _ _) read
      · next c body =>
          refine List.IsSuffix.trans ?_ (List.suffix_cons _ _)
          rw [on_bind, on_set, Option.bind_some, on_ite] at read
          split at read
          · exact leavesEnd_pure _ _ _ _ read
          · rw [on_ite] at read
            split at read
            -- What follows a backslash is looked at before it is taken.
            · split at read
              · exact (leavesEnd_fourDigits.bind fun _ => ih).later (List.suffix_cons _ _) read
              · exact (leavesEnd_escape.bind fun _ => ih) _ _ _ read
            · exact ((leavesEnd_fail _).ite ih) _ _ _ read

theorem leavesEnd_skipString : LeavesEnd skipString := by
  intro input rest a read
  rw [skipString, on_bind, on_get, Option.bind_some] at read
  exact leavesEnd_skipStringRest _ _ _ _ read

theorem leavesEnd_skipDigits : LeavesEnd skipDigits := by
  intro input rest a read
  rw [skipDigits, on_bind, on_get, Option.bind_some, on_ite] at read
  split at read
  · cases read
    exact digitRun_suffix input
  · cases read

theorem leavesEnd_skipExponent : LeavesEnd skipExponent :=
  (leavesEnd_accept _).bind fun _ =>
    LeavesEnd.ite ((leavesEnd_accept _).bind fun _ => leavesEnd_skipDigits) (leavesEnd_pure _)

theorem leavesEnd_skipAfterWhole : LeavesEnd skipAfterWhole :=
  (leavesEnd_accept _).bind fun _ =>
    LeavesEnd.ite (leavesEnd_skipDigits.bind fun _ => leavesEnd_skipExponent)
      leavesEnd_skipExponent

theorem leavesEnd_skipNumber : LeavesEnd skipNumber := by
  refine (leavesEnd_accept _).bind fun _ => ?_
  intro input rest a read
  rw [on_bind, on_get, Option.bind_some] at read
  dsimp only at read
  split at read
  · rw [on_ite] at read
    split at read
    · cases read
    · exact leavesEnd_skipAfterWhole.later (List.suffix_cons _ _) read
  · exact (leavesEnd_skipDigits.bind fun _ => leavesEnd_skipAfterWhole) _ _ _ read

theorem leavesEnd_skipOn (close : Char) (ended expected : Error) :
    LeavesEnd (skipOn close ended expected) := by
  refine leavesEnd_peek.bind fun next => ?_
  cases next with
  | none => exact leavesEnd_fail _
  | some g =>
      exact (leavesEnd_skip.bind fun _ => leavesEnd_pure _).ite
        ((leavesEnd_skip.bind fun _ => leavesEnd_pure _).ite (leavesEnd_fail _))

mutual

theorem leavesEnd_skipValue : (fuel : Nat) → LeavesEnd (skipValue fuel)
  | 0 => leavesEnd_fail _
  | fuel + 1 => by
      refine leavesEnd_peek.bind fun next => ?_
      split
      · exact leavesEnd_fail _
      · exact leavesEnd_word _
      · exact leavesEnd_word _
      · exact leavesEnd_word _
      · exact leavesEnd_skip.bind fun _ => leavesEnd_skipString
      · refine leavesEnd_skip.bind fun _ => leavesEnd_peek.bind fun next => ?_
        split
        · exact leavesEnd_fail _
        · exact leavesEnd_skip
        · exact leavesEnd_skipItems fuel
      · refine leavesEnd_skip.bind fun _ => leavesEnd_peek.bind fun next => ?_
        split
        · exact leavesEnd_fail _
        · exact leavesEnd_skip
        · exact leavesEnd_skipMembers fuel
      · exact leavesEnd_skipNumber.ite (leavesEnd_fail _)

theorem leavesEnd_skipItems : (fuel : Nat) → LeavesEnd (skipItems fuel)
  | 0 => leavesEnd_fail _
  | fuel + 1 =>
      (leavesEnd_skipValue fuel).bind fun _ => (leavesEnd_skipOn _ _ _).bind fun _ =>
        (leavesEnd_skipItems fuel).ite (leavesEnd_pure _)

theorem leavesEnd_skipMembers : (fuel : Nat) → LeavesEnd (skipMembers fuel)
  | 0 => leavesEnd_fail _
  | fuel + 1 => by
      refine leavesEnd_peek.bind fun next => ?_
      split
      · exact leavesEnd_fail _
      · exact leavesEnd_skip.bind fun _ => leavesEnd_skipString.bind fun _ =>
          leavesEnd_colon.bind fun _ => (leavesEnd_skipValue fuel).bind fun _ =>
            (leavesEnd_skipOn _ _ _).bind fun _ =>
              (leavesEnd_skipMembers fuel).ite (leavesEnd_pure _)
      · exact leavesEnd_fail _

end

theorem leavesEnd_skipAny : LeavesEnd skipAny := by
  intro input rest a read
  rw [skipAny, on_bind, on_get, Option.bind_some] at read
  exact leavesEnd_skipValue _ _ _ _ read

/-! ## Cutting -/

/-- A value that is passed over, as it is spelled. -/
def spelled : Scan Input := do
  let before ← get
  skipAny
  let after ← get
  return before.take (before.length - after.length)

def cutMember (key : String) (seen : List (String × Input)) : Scan (List (String × Input)) := do
  colon
  let value ← spelled
  return (key, value) :: seen

def cutObject : Scan (List (String × Input)) := do
  match ← peek with
  | some (.char '\x7b') =>
      skip
      members cutMember []
  | _ => fail .expectedValue

/-- The members that a text consists of if it is an object. -/
def memberTexts? (s : String) : Option (List (String × Input)) :=
  (cutObject.run (Text.glyphs s)).toOption

theorem on_cutObject_iff {input rest : Input} {parts : List (String × Input)} :
    cutObject.on input = some (parts, rest) ↔
      ∃ body, bare input = .char '\x7b' :: body ∧
        (members cutMember []).on body = some (parts, rest) := by
  rw [cutObject, on_bind, on_peek, Option.bind_some]
  dsimp only
  constructor
  · intro read
    split at read
    · next start =>
        obtain ⟨body, start⟩ := List.head?_eq_some_iff.1 start
        rw [start] at read
        exact ⟨body, start, read⟩
    · cases read
  · rintro ⟨body, start, read⟩
    rw [start]
    exact read

theorem memberTexts?_eq_some_iff {s : String} {parts : List (String × Input)} :
    memberTexts? s = some parts ↔
      ∃ body rest, bare (letters s.toList) = .char '\x7b' :: body ∧
        (members cutMember []).on body = some (parts, rest) ∧ bare rest = [] := by
  show (cutObject.run (letters s.toList)).toOption = some parts ↔ _
  rw [toOption_eq_some, run_eq_ok]
  constructor
  · rintro ⟨rest, cut, ended⟩
    obtain ⟨body, start, read⟩ := on_cutObject_iff.1 cut
    exact ⟨body, rest, start, read, ended⟩
  · rintro ⟨body, rest, start, read, ended⟩
    exact ⟨rest, on_cutObject_iff.2 ⟨body, start, read⟩, ended⟩

theorem exists_letters_of_suffix {cs : List Char} {rest : Input} (suffix : rest <:+ letters cs) :
    ∃ text more, cs = text ++ more ∧ rest = letters more := by
  obtain ⟨taken, split⟩ := suffix
  obtain ⟨text, more, rfl, -, rfl⟩ := List.append_eq_map_iff.1 split
  exact ⟨text, more, rfl, rfl⟩

theorem on_spelled {text more : List Char}
    (passed : skipAny.on (letters (text ++ more)) = some ((), letters more)) :
    spelled.on (letters (text ++ more)) = some (letters text, letters more) := by
  have taken : (letters (text ++ more)).take
      ((letters (text ++ more)).length - (letters more).length) = letters text := by
    simp [letters]
  rw [spelled, on_bind, on_get, Option.bind_some, on_bind, passed, Option.bind_some, on_bind,
    on_get, Option.bind_some, on_pure, taken]

/-- Whatever value is read, its spelling is cut out. -/
theorem on_spelled_of_value {most : Nat} {cs : List Char} {tree : Json} {rest : Input}
    (read : (value most).on (letters cs) = some (tree, rest)) :
    ∃ text more, rest = letters more ∧ spelled.on (letters cs) = some (letters text, rest) ∧
      WrittenDocument tree text := by
  obtain ⟨_, more, rfl, rfl, blank, value, rfl, space, written⟩ := takes_value most _ _ _ read
  refine ⟨blank ++ value, more, rfl, on_spelled (on_skipAny read), ?_⟩
  rw [← List.append_nil value]
  exact .document space written blank_nil

theorem on_cutMember {key : String} {seen : List (String × Input)} {input body value left : Input}
    (start : bare input = .char ':' :: body) (cut : spelled.on body = some (value, left)) :
    (cutMember key seen).on input = some ((key, value) :: seen, left) := by
  rw [cutMember, on_bind, on_colon_iff.2 start, Option.bind_some, on_bind, cut]
  rfl

end HolderBond.Json.Scan
