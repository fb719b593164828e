import HolderBond.Json.Reader

/-!
# What readers make of their input

A reader is looked at through what it gives and what it leaves, all faults counting as one.  In
this view the pieces that every reader is put together from have one equation each.
-/

set_option autoImplicit false

namespace HolderBond.Json.Scan

open HolderBond.Text (Glyph)

variable {α β : Type}

/-- What a reader gives for some input, and the input that it leaves; nothing if it refuses. -/
def on (read : Scan α) (input : Input) : Option (α × Input) :=
  match StateT.run read input with
  | .ok result => some result
  | .error _ => none

theorem on_eq_some {read : Scan α} {input rest : Input} {a : α} :
    read.on input = some (a, rest) ↔ StateT.run read input = .ok (a, rest) := by
  unfold on
  cases StateT.run read input <;> simp

@[simp] theorem on_pure (a : α) (input : Input) : (pure a : Scan α).on input = some (a, input) :=
  rfl

@[simp] theorem on_bind (read : Scan α) (next : α → Scan β) (input : Input) :
    (read >>= next).on input = (read.on input).bind fun result => (next result.1).on result.2 := by
  simp only [on, StateT.run_bind]
  cases StateT.run read input <;> rfl

theorem on_bind_eq_some {read : Scan α} {next : α → Scan β} {input rest : Input} {b : β} :
    (read >>= next).on input = some (b, rest) ↔
      ∃ a middle, read.on input = some (a, middle) ∧ (next a).on middle = some (b, rest) := by
  rw [on_bind, Option.bind_eq_some_iff, Prod.exists]

@[simp] theorem on_map (f : α → β) (read : Scan α) (input : Input) :
    (f <$> read).on input = (read.on input).map fun result => (f result.1, result.2) := by
  simp only [on, StateT.run_map]
  cases StateT.run read input <;> rfl

@[simp] theorem on_get (input : Input) : (get : Scan Input).on input = some (input, input) := rfl

@[simp] theorem on_set (state input : Input) : (set state : Scan Unit).on input = some ((), state) :=
  rfl

@[simp] theorem on_fail (e : Error) (input : Input) : (fail e : Scan α).on input = none := rfl

@[simp] theorem on_ofExcept (result : Except Error α) (input : Input) :
    (liftM result : Scan α).on input = result.toOption.map fun a => (a, input) := by
  cases result <;> rfl

theorem on_ite (condition : Prop) [Decidable condition] (yes no : Scan α) (input : Input) :
    (if condition then yes else no).on input =
      if condition then yes.on input else no.on input := by
  split <;> rfl

/-! ## Space -/

/-- The input from its first glyph that is no space. -/
def bare (input : Input) : Input :=
  input.dropWhile isSpace

@[simp] theorem bare_bare (input : Input) : bare (bare input) = bare input := by
  unfold bare
  induction input with
  | nil => rfl
  | cons g rest ih =>
      rw [List.dropWhile_cons]
      split
      · exact ih
      · next solid => rw [List.dropWhile_cons, if_neg solid]

theorem bare_of_solid {g : Glyph} (rest : Input) (solid : isSpace g = false) :
    bare (g :: rest) = g :: rest := by
  simp [bare, solid]

theorem bare_append {blank : Input} (rest : Input) (spaces : ∀ g ∈ blank, isSpace g = true) :
    bare (blank ++ rest) = bare rest :=
  List.dropWhile_append_of_pos spaces

@[simp] theorem on_peek (input : Input) :
    peek.on input = some ((bare input).head?, bare input) := rfl

@[simp] theorem on_skip (input : Input) : skip.on input = some ((), input.drop 1) := rfl

/-! ## Words -/

def letters (cs : List Char) : Input :=
  cs.map .char

@[simp] theorem letters_nil : letters [] = [] := rfl

@[simp] theorem letters_cons (c : Char) (cs : List Char) :
    letters (c :: cs) = .char c :: letters cs := rfl

@[simp] theorem letters_append (cs ds : List Char) :
    letters (cs ++ ds) = letters cs ++ letters ds := by
  simp [letters]

theorem letters_injective {cs ds : List Char} (same : letters cs = letters ds) : cs = ds :=
  (List.map_inj_right fun _ _ same => Glyph.char.inj same).1 same

theorem on_word (cs : List Char) (input : Input) (result : Unit × Input) :
    (word cs).on input = some result ↔ input = letters cs ++ result.2 := by
  induction cs generalizing input with
  | nil => simp [word, Prod.ext_iff, eq_comm]
  | cons c cs ih =>
      cases input with
      | nil => simp [word]
      | cons g rest =>
          by_cases same : g = .char c
          · simp [word, same, ih]
          · simp [word, same]

theorem on_word_letters (cs : List Char) (rest : Input) :
    (word cs).on (letters cs ++ rest) = some ((), rest) :=
  (on_word cs _ ((), rest)).2 rfl

/-! ## Readers that look at nothing -/

/-- A reader that does not look at its input: it leaves all of it, and gives the same for any
other. -/
def Constant (read : Scan α) : Prop :=
  ∀ input rest a, read.on input = some (a, rest) →
    rest = input ∧ ∀ other, read.on other = some (a, other)

theorem constant_pure (a : α) : Constant (pure a) := by
  rintro input rest _ ⟨⟩
  exact ⟨rfl, fun _ => rfl⟩

theorem constant_fail (e : Error) : Constant (fail e : Scan α) := by
  rintro input rest _ ⟨⟩

theorem constant_floating (negative : Bool) (digits : Nat) (power : Int) :
    Constant (floating negative digits power) := by
  unfold floating
  split
  · exact constant_pure _
  · exact constant_fail _

theorem constant_integer (negative : Bool) (n : Nat) : Constant (integer negative n) := by
  unfold integer
  split
  · split
    · exact constant_pure _
    · exact constant_floating _ _ _
  · exact constant_pure _

/-- What the parts of a number mean does not depend on what follows them. -/
theorem constant_numberOf (negative : Bool) (whole : List Nat) (fraction : Option (List Nat))
    (exponent : Option Int) : Constant (numberOf negative whole fraction exponent) := by
  unfold numberOf
  obtain ⟨n, dropped⟩ := appendDigits 0 whole
  dsimp only
  split
  · split
    · exact constant_integer _ _
    · exact constant_floating _ _ _
  · exact constant_floating _ _ _

/-! ## Whole documents -/

theorem toOption_eq_some {result : Except Error α} {a : α} :
    result.toOption = some a ↔ result = .ok a := by
  cases result <;> simp [Except.toOption]

/-- A document is read if nothing but space is left after it. -/
theorem run_eq_ok {read : Scan α} {input : Input} {a : α} :
    read.run input = .ok a ↔ ∃ rest, read.on input = some (a, rest) ∧ bare rest = [] := by
  have whole : read.run input = ((do let a ← read; finish; return a : Scan α).run' input) := rfl
  have taken : ∀ x : Scan α, StateT.run' x input = .ok a ↔ ∃ rest, x.on input = some (a, rest) := by
    intro x
    simp only [on_eq_some, StateT.run'_eq]
    cases StateT.run x input with
    | error e => simp [Functor.map, Except.map]
    | ok result => simp [Functor.map, Except.map, Prod.ext_iff]
  rw [whole, taken]
  simp only [on_bind, Option.bind_eq_some_iff]
  constructor
  · rintro ⟨rest, ⟨b, left⟩, got, ⟨_, last⟩, finished, same⟩
    simp only [on_pure, Option.some.injEq, Prod.mk.injEq] at same
    obtain ⟨rfl, rfl⟩ := same
    refine ⟨left, got, ?_⟩
    simp only [finish, on_bind, on_peek, Option.bind_some] at finished
    cases more : bare left with
    | nil => rfl
    | cons g others =>
        rw [more] at finished
        simp at finished
  · rintro ⟨rest, got, none⟩
    refine ⟨[], (a, rest), got, ((), []), ?_, rfl⟩
    simp [finish, none]

end HolderBond.Json.Scan
