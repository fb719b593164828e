import HolderBond.Proofs.Json.Values

/-!
# What can be read can be skipped

Skipping a value checks less than reading it, and where reading succeeds both end at the same
place.  Skipping counts its steps; a reader never leaves more than it was given, so the count
suffices.
-/

set_option autoImplicit false

namespace HolderBond.Json.Scan

open HolderBond.Text (Glyph)

variable {α β σ τ : Type} {input rest : Input}

/-! ## What is left is an end of what was given -/

/-- A reader that leaves an end of its input. -/
def LeavesEnd (read : Scan α) : Prop :=
  ∀ input rest a, read.on input = some (a, rest) → rest <:+ input

theorem leavesEnd_pure (a : α) : LeavesEnd (pure a) := by
  rintro input rest _ ⟨⟩
  exact List.suffix_refl _

theorem leavesEnd_fail (e : Error) : LeavesEnd (fail e : Scan α) := by
  rintro input rest _ ⟨⟩

theorem LeavesEnd.bind {read : Scan α} {next : α → Scan β} (first : LeavesEnd read)
    (then_ : ∀ a, LeavesEnd (next a)) : LeavesEnd (read >>= next) := by
  intro input rest b got
  obtain ⟨a, middle, got, last⟩ := on_bind_eq_some.1 got
  exact (then_ a _ _ _ last).trans (first _ _ _ got)

theorem LeavesEnd.map {read : Scan α} (first : LeavesEnd read) (f : α → β) :
    LeavesEnd (f <$> read) := by
  intro input rest b got
  rw [on_map, Option.map_eq_some_iff] at got
  obtain ⟨⟨a, left⟩, got, same⟩ := got
  cases same
  exact first _ _ _ got

theorem LeavesEnd.ite {condition : Prop} [Decidable condition] {yes no : Scan α}
    (first : LeavesEnd yes) (second : LeavesEnd no) :
    LeavesEnd (if condition then yes else no) := by
  split
  · exact first
  · exact second

theorem leavesEnd_skip : LeavesEnd skip := by
  rintro input rest _ ⟨⟩
  exact List.drop_suffix 1 input

theorem leavesEnd_fourDigits : LeavesEnd fourDigits := by
  intro input rest n read
  unfold fourDigits at read
  rw [on_bind, on_get, Option.bind_some] at read
  dsimp only at read
  split at read
  · cases read
    exact List.drop_suffix 4 input
  · cases read

theorem LeavesEnd.later {read : Scan α} (leaves : LeavesEnd read) {later : Input} {a : α}
    (later_suffix : later <:+ input)
    (got : (do set later; read : Scan α).on input = some (a, rest)) : rest <:+ input := by
  rw [on_bind, on_set, Option.bind_some] at got
  exact (leaves _ _ _ got).trans later_suffix

theorem suffix_cons_cons (g h : Glyph) (body : Input) : body <:+ g :: h :: body :=
  (List.suffix_cons h body).trans (List.suffix_cons g (h :: body))

theorem leavesEnd_lowSurrogate (high : Nat) : LeavesEnd (lowSurrogate high) := by
  intro input rest c read
  unfold lowSurrogate at read
  rw [on_bind, on_get, Option.bind_some] at read
  dsimp only at read
  split at read
  · cases read
  · split at read
    · cases read
    · refine LeavesEnd.later ?_ (suffix_cons_cons _ _ _) read
      exact leavesEnd_fourDigits.bind fun _ => (leavesEnd_pure _).ite (leavesEnd_fail _)
    · cases read
  · cases read

theorem leavesEnd_numbered : LeavesEnd numbered :=
  leavesEnd_fourDigits.bind fun n =>
    (leavesEnd_fail _).ite ((leavesEnd_lowSurrogate n).ite (leavesEnd_pure _))

theorem leavesEnd_escape : LeavesEnd escape := by
  intro input rest c read
  unfold escape at read
  rw [on_bind, on_get, Option.bind_some] at read
  dsimp only at read
  split at read
  · cases read
  · exact leavesEnd_numbered.later (List.suffix_cons _ _) read
  · split at read
    · exact LeavesEnd.later (leavesEnd_pure _) (List.suffix_cons _ _) read
    · cases read
  · cases read

theorem leavesEnd_stringRest (clock : Input) (wellFormed : Bool) (seen : List Char) :
    LeavesEnd (stringRest clock wellFormed seen) := by
  induction clock generalizing wellFormed seen with
  | nil => exact leavesEnd_fail _
  | cons g clock ih =>
      intro input rest s read
      unfold stringRest at read
      rw [on_bind, on_get, Option.bind_some] at read
      dsimp only at read
      split at read
      · cases read
      · exact (ih false seen).later (List.suffix_cons _ _) read
      · refine LeavesEnd.later ?_ (List.suffix_cons _ _) read
        refine ((leavesEnd_pure _).ite (leavesEnd_fail _)).ite ?_
        refine (leavesEnd_escape.bind fun d => ih wellFormed (d :: seen)).ite ?_
        exact (leavesEnd_fail _).ite (ih wellFormed _)

theorem leavesEnd_stringBody : LeavesEnd stringBody := by
  intro input rest s read
  rw [stringBody, on_bind, on_get, Option.bind_some] at read
  exact leavesEnd_stringRest _ _ _ _ _ _ read

theorem digitRun_suffix (input : Input) : (digitRun input).2 <:+ input := by
  induction input with
  | nil => exact List.suffix_refl _
  | cons g input ih =>
      unfold digitRun
      split
      · exact ih.trans (List.suffix_cons g input)
      · exact List.suffix_refl _

theorem leavesEnd_someDigits : LeavesEnd someDigits := by
  intro input rest result read
  unfold someDigits at read
  rw [on_bind, on_get, Option.bind_some] at read
  dsimp only at read
  split at read
  · cases read
    exact digitRun_suffix input
  · cases read

theorem leavesEnd_accept (cs : List Char) : LeavesEnd (accept cs) := by
  intro input rest result read
  unfold accept at read
  rw [on_bind, on_get, Option.bind_some] at read
  dsimp only at read
  split at read
  · rw [on_ite] at read
    split at read
    · cases read
      exact List.suffix_cons _ _
    · cases read
      exact List.suffix_refl _
  · cases read
    exact List.suffix_refl _

theorem leavesEnd_integerPart : LeavesEnd integerPart := by
  intro input rest n read
  unfold integerPart at read
  rw [on_bind, on_get, Option.bind_some] at read
  dsimp only at read
  split at read
  · rw [on_ite] at read
    split at read
    · cases read
    · cases read
      exact List.suffix_cons _ _
  · exact leavesEnd_someDigits _ _ _ read

theorem leavesEnd_fractionPart : LeavesEnd fractionPart :=
  (leavesEnd_accept _).bind fun _ =>
    (leavesEnd_someDigits.map some).ite (leavesEnd_pure _)

theorem leavesEnd_exponentPart : LeavesEnd exponentPart :=
  (leavesEnd_accept _).bind fun _ =>
    LeavesEnd.ite ((leavesEnd_accept _).bind fun _ =>
      leavesEnd_someDigits.bind fun _ => leavesEnd_pure _) (leavesEnd_pure _)

theorem Constant.leavesEnd {read : Scan α} (constant : Constant read) : LeavesEnd read := by
  intro input rest a got
  obtain ⟨same, -⟩ := constant _ _ _ got
  subst same
  exact List.suffix_refl _

theorem leavesEnd_number : LeavesEnd number :=
  (leavesEnd_accept _).bind fun _ => leavesEnd_integerPart.bind fun _ =>
    leavesEnd_fractionPart.bind fun _ => leavesEnd_exponentPart.bind fun _ =>
      (constant_numberOf _ _ _ _).leavesEnd

theorem suffix_of_bare {g : Glyph} {body : Input} (start : bare input = g :: body) :
    body <:+ input := by
  refine List.IsSuffix.trans ?_ (List.dropWhile_suffix isSpace)
  rw [← bare, start]
  exact List.suffix_cons g body

theorem MoreItems.suffix {first goesOn : Bool} {text : Input}
    (more : MoreItems first text goesOn rest) : rest <:+ text := by
  cases more with
  | ended => exact List.suffix_refl _
  | first other => exact List.suffix_refl _
  | comma start other =>
      rw [← start]
      exact (List.dropWhile_suffix _).trans (List.suffix_cons _ _)

theorem leavesEnd_moreItems (first : Bool) : LeavesEnd (moreItems first) := by
  intro input rest goesOn read
  rw [on_moreItems_iff] at read
  exact read.suffix.trans (List.dropWhile_suffix _)

theorem MoreMembers.suffix {first goesOn : Bool} {text : Input}
    (more : MoreMembers first text goesOn rest) : rest <:+ text := by
  cases more with
  | ended => exact List.suffix_cons _ _
  | first => exact List.suffix_cons _ _
  | comma start => exact (suffix_of_bare start).trans (List.suffix_cons _ _)

theorem leavesEnd_moreMembers (first : Bool) : LeavesEnd (moreMembers first) := by
  intro input rest goesOn read
  rw [on_moreMembers_iff] at read
  exact read.suffix.trans (List.dropWhile_suffix _)

theorem leavesEnd_colon : LeavesEnd colon := by
  rintro input rest ⟨⟩ read
  exact suffix_of_bare (on_colon_iff.1 read)

theorem LeavesEnd.itemsWithin {item : Scan α} (leaves : LeavesEnd item) (clock : Input)
    (first : Bool) : LeavesEnd (itemsWithin item clock first) := by
  induction clock generalizing first with
  | nil => exact leavesEnd_fail _
  | cons g clock ih =>
      exact (leavesEnd_moreItems first).bind fun _ =>
        LeavesEnd.ite (leaves.bind fun _ => (ih false).bind fun _ => leavesEnd_pure _)
          (leavesEnd_skip.bind fun _ => leavesEnd_pure _)

theorem LeavesEnd.membersWithin {member : String → σ → Scan σ}
    (leaves : ∀ key state, LeavesEnd (member key state)) (clock : Input) (first : Bool)
    (state : σ) : LeavesEnd (membersWithin member clock first state) := by
  induction clock generalizing first state with
  | nil => exact leavesEnd_fail _
  | cons g clock ih =>
      exact (leavesEnd_moreMembers first).bind fun _ =>
        LeavesEnd.ite (leavesEnd_stringBody.bind fun _ => (leaves _ _).bind fun _ => ih false _)
          (leavesEnd_pure _)

/-- Two readers of members that take the same steps on inputs of some kind go the same way through
an object, and what they have put together stays related. -/
theorem exists_related {member : String → σ → Scan σ} {other : String → τ → Scan τ}
    (Kind : Input → Prop) (Related : σ → τ → Prop)
    (ends : ∀ input rest, rest <:+ input → Kind input → Kind rest)
    (step : ∀ key s t input next rest, Kind input → Related s t →
      (member key s).on input = some (next, rest) →
      Kind rest ∧ ∃ along, (other key t).on input = some (along, rest) ∧ Related next along)
    {clock : Input} {first : Bool} {s final : σ} {t : τ} (kind : Kind input)
    (related : Related s t)
    (read : (membersWithin member clock first s).on input = some (final, rest)) :
    ∃ last, (membersWithin other clock first t).on input = some (last, rest) ∧
      Related final last := by
  induction clock generalizing first s t input with
  | nil => cases read
  | cons g clock ih =>
      -- Where an object ends does not depend on what was put together.
      cases membersWithin_step read with
      | ended stop =>
          refine ⟨t, on_membersWithin_ended (Nat.succ_pos _) ?_, related⟩
          rw [stop]
          exact .ended
      | @more _ _ next afterKey _ _ _ _ _ goesOn named memberRead later =>
          have kindNext : Kind next :=
            ends _ _ (goesOn.suffix.trans (List.dropWhile_suffix _)) kind
          have kindKey : Kind afterKey := ends _ _ (leavesEnd_stringBody _ _ _ named) kindNext
          obtain ⟨kindLater, along, otherRead, relatedNext⟩ :=
            step _ _ _ _ _ _ kindKey related memberRead
          obtain ⟨last, othersRead, relatedLast⟩ := ih kindLater relatedNext later
          refine ⟨last, ?_, relatedLast⟩
          rw [on_membersWithin_more goesOn named, otherRead]
          exact othersRead

theorem leavesEnd_keep {item : Scan Json} (leaves : LeavesEnd item) (key : String)
    (seen : List (String × Json)) : LeavesEnd (keep item key seen) :=
  leavesEnd_colon.bind fun _ => leaves.bind fun _ => leavesEnd_pure _

theorem leavesEnd_valueOver {nested : Option (Scan Json)}
    (leaves : ∀ item, nested = some item → LeavesEnd item) : LeavesEnd (valueOver nested) := by
  intro input rest tree read
  rw [on_valueOver_iff] at read
  refine List.IsSuffix.trans ?_ (List.dropWhile_suffix isSpace)
  rw [← bare]
  generalize bare input = text at read
  cases read with
  | null => exact List.suffix_append _ _
  | yes => exact List.suffix_append _ _
  | no => exact List.suffix_append _ _
  | string read => exact (leavesEnd_stringBody _ _ _ read).trans (List.suffix_cons _ _)
  | array allowed read =>
      exact ((leaves _ allowed).itemsWithin _ true _ _ _ read).trans (List.suffix_cons _ _)
  | object allowed read =>
      have keeps := leavesEnd_keep (leaves _ allowed)
      exact (LeavesEnd.membersWithin keeps _ true [] _ _ _ read).trans (List.suffix_cons _ _)
  | number begins read => exact leavesEnd_number _ _ _ read

theorem leavesEnd_value (levels : Nat) : LeavesEnd (value levels) := by
  induction levels with
  | zero => exact leavesEnd_valueOver fun _ none => by cases none
  | succ levels ih =>
      apply leavesEnd_valueOver
      rintro _ ⟨⟩
      exact ih

/-! ## Skipping strings -/

theorem numbered_cases {body : Input} {d : Char} (read : numbered.on body = some (d, rest)) :
    ∃ n after, fourDigits.on body = some (n, after) ∧
      ((¬ (0xDC00 ≤ n ∧ n ≤ 0xDFFF) ∧ ¬ (0xD800 ≤ n ∧ n ≤ 0xDBFF) ∧ d = Char.ofNat n ∧
          rest = after) ∨
        ∃ more low, after = .char '\\' :: .char 'u' :: more ∧
          fourDigits.on more = some (low, rest) ∧ (0xD800 ≤ n ∧ n ≤ 0xDBFF) ∧
          (0xDC00 ≤ low ∧ low ≤ 0xDFFF) ∧
          d = Char.ofNat (0x10000 + (n - 0xD800) * 0x400 + (low - 0xDC00))) := by
  unfold numbered at read
  obtain ⟨n, after, digits, read⟩ := on_bind_eq_some.1 read
  refine ⟨n, after, digits, ?_⟩
  simp only [Bool.and_eq_true, decide_eq_true_eq] at read
  rw [on_ite] at read
  split at read
  · cases read
  next notLow =>
  rw [on_ite] at read
  split at read
  · next isHigh =>
    right
    unfold lowSurrogate at read
    rw [on_bind, on_get, Option.bind_some] at read
    dsimp only at read
    split at read
    · cases read
    · split at read
      · cases read
      · rw [on_bind, on_set, Option.bind_some, on_bind, Option.bind_eq_some_iff] at read
        obtain ⟨⟨low, left⟩, digits, read⟩ := read
        simp only [Bool.and_eq_true, decide_eq_true_eq] at read
        rw [on_ite] at read
        split at read
        · next isLow =>
          simp only [on_pure, Option.some.injEq, Prod.mk.injEq] at read
          obtain ⟨rfl, rfl⟩ := read
          exact ⟨_, low, rfl, digits, isHigh, isLow, rfl⟩
        · cases read
      · cases read
    · cases read
  · next notHigh =>
    cases read
    exact Or.inl ⟨notLow, notHigh, rfl, rfl⟩

/-! One round of skipping, by what stands first. -/

theorem on_skipStringRest_number (g : Glyph) (clock body : Input) :
    (skipStringRest (g :: clock)).on (.char '\\' :: .char 'u' :: body) =
      (fourDigits.on body).bind fun digits => (skipStringRest clock).on digits.2 := by
  simp [skipStringRest]

theorem on_skipStringRest_letter (g : Glyph) (clock : Input)
    (other : ∀ body, input ≠ .char 'u' :: body) :
    (skipStringRest (g :: clock)).on (.char '\\' :: input) =
      (escape.on input).bind fun escaped => (skipStringRest clock).on escaped.2 := by
  simp [skipStringRest]

theorem on_skipStringRest_plain {c : Char} (g : Glyph) (clock body : Input) (noQuote : c ≠ '"')
    (noEscape : c ≠ '\\') (noControl : ¬ c.toNat < 32) :
    (skipStringRest (g :: clock)).on (.char c :: body) = (skipStringRest clock).on body := by
  simp [skipStringRest, noQuote, noEscape, noControl]

theorem on_skipStringRest_escape {d : Char} {after : Input} {steps : Input}
    (escaped : escape.on input = some (d, after)) (enough : input.length < steps.length)
    (skipped : ∀ steps : Input, after.length ≤ steps.length →
      (skipStringRest steps).on after = some ((), rest)) :
    (skipStringRest steps).on (.char '\\' :: input) = some ((), rest) := by
  obtain ⟨step, steps, rfl⟩ := List.exists_cons_of_length_pos (Nat.zero_lt_of_lt enough)
  rw [List.length_cons, Nat.lt_succ_iff] at enough
  by_cases number : ∃ body, input = .char 'u' :: body
  · obtain ⟨body, rfl⟩ := number
    have numbered_ : numbered.on body = some (d, after) := by
      simpa [escape] using escaped
    obtain ⟨n, middle, digits, ⟨-, -, -, rfl⟩ | ⟨more, low, rfl, second, -⟩⟩ :=
      numbered_cases numbered_
    · have shorter := (leavesEnd_fourDigits _ _ _ digits).length_le
      rw [on_skipStringRest_number, digits, Option.bind_some]
      apply skipped
      simp only [List.length_cons] at enough
      omega
    · have shorter := (leavesEnd_fourDigits _ _ _ digits).length_le
      have shortest := (leavesEnd_fourDigits _ _ _ second).length_le
      simp only [List.length_cons] at enough shorter
      obtain ⟨next, steps, rfl⟩ := List.exists_cons_of_length_pos (l := steps) (by omega)
      rw [on_skipStringRest_number, digits, Option.bind_some, on_skipStringRest_number, second,
        Option.bind_some]
      apply skipped
      simp only [List.length_cons] at enough
      omega
  · have shorter := (leavesEnd_escape _ _ _ escaped).length_le
    rw [on_skipStringRest_letter step steps fun body same => number ⟨body, same⟩, escaped,
      Option.bind_some]
    apply skipped
    omega

/-- A string that can be read can be skipped, whatever was seen of it. -/
theorem on_skipStringRest {clock : Input} {wellFormed : Bool} {seen : List Char} {s : String}
    (read : (stringRest clock wellFormed seen).on input = some (s, rest)) (steps : Input)
    (enough : input.length ≤ steps.length) : (skipStringRest steps).on input = some ((), rest) := by
  induction clock generalizing input wellFormed seen steps with
  | nil => cases read
  | cons g clock ih =>
      unfold stringRest at read
      rw [on_bind, on_get, Option.bind_some] at read
      dsimp only at read
      cases input with
      | nil => cases read
      | cons h input =>
          obtain ⟨step, steps, rfl⟩ :=
            List.exists_cons_of_length_pos (Nat.lt_of_lt_of_le (Nat.succ_pos _) enough)
          have later : input.length ≤ steps.length := by
            simpa only [List.length_cons, Nat.add_le_add_iff_right] using enough
          cases h with
          | malformed bytes =>
              rw [on_bind, on_set, Option.bind_some] at read
              simpa [skipStringRest] using ih read steps later
          | char c =>
              rw [on_bind, on_set, Option.bind_some, on_ite] at read
              split at read
              · next quote =>
                  rw [on_ite] at read
                  split at read
                  · simp only [on_pure, Option.some.injEq, Prod.mk.injEq] at read
                    obtain ⟨-, rfl⟩ := read
                    simp [skipStringRest, eq_of_beq quote]
                  · cases read
              · next noQuote =>
                  rw [on_ite] at read
                  split at read
                  · next backslash =>
                      obtain ⟨d, after, escaped, read⟩ := on_bind_eq_some.1 read
                      rw [eq_of_beq backslash]
                      exact on_skipStringRest_escape escaped (Nat.lt_succ_of_le later)
                        fun steps fits => ih read steps fits
                  · next noBackslash =>
                      rw [on_ite] at read
                      split at read
                      · cases read
                      · next noControl =>
                          rw [on_skipStringRest_plain step steps input (by simpa using noQuote)
                            (by simpa using noBackslash) noControl]
                          exact ih read steps later

theorem on_skipString {s : String} (read : stringBody.on input = some (s, rest)) :
    skipString.on input = some ((), rest) := by
  rw [stringBody, on_bind, on_get, Option.bind_some] at read
  rw [skipString, on_bind, on_get, Option.bind_some]
  exact on_skipStringRest read input (Nat.le_refl _)

/-! ## Skipping numbers -/

theorem on_skipDigits {result : List Nat} (read : someDigits.on input = some (result, rest)) :
    skipDigits.on input = some ((), rest) := by
  unfold someDigits at read
  unfold skipDigits
  rw [on_bind, on_get, Option.bind_some] at read ⊢
  dsimp only at read ⊢
  split at read
  · next digit =>
      cases read
      rw [if_pos digit, on_set]
  · cases read

def skipExponent : Scan Unit := do
  if (← accept ['e', 'E']).isSome then
    let _ ← accept ['+', '-']
    skipDigits

def skipAfterWhole : Scan Unit := do
  if (← accept ['.']).isSome then skipDigits
  if (← accept ['e', 'E']).isSome then
    let _ ← accept ['+', '-']
    skipDigits

theorem on_skipExponent {e : Option Int} (read : exponentPart.on input = some (e, rest)) :
    skipExponent.on input = some ((), rest) := by
  unfold exponentPart at read
  unfold skipExponent
  rw [on_bind] at read ⊢
  cases mark : (accept ['e', 'E']).on input with
  | none => rw [mark] at read; cases read
  | some result =>
      rw [mark, Option.bind_some, on_ite] at read
      rw [Option.bind_some, on_ite]
      split at read
      · next present =>
          rw [if_pos present, on_bind]
          obtain ⟨sign, afterSign, signed, read⟩ := on_bind_eq_some.1 read
          obtain ⟨digits, afterDigits, run, read⟩ := on_bind_eq_some.1 read
          cases read
          rw [signed, Option.bind_some]
          exact on_skipDigits run
      · next absent =>
          rw [if_neg absent]
          cases read
          rfl

theorem on_skipAfterWhole {fraction : Option (List Nat)} {e : Option Int} {middle : Input}
    (fractional : fractionPart.on input = some (fraction, middle))
    (exponential : exponentPart.on middle = some (e, rest)) :
    skipAfterWhole.on input = some ((), rest) := by
  have last := on_skipExponent exponential
  unfold fractionPart at fractional
  unfold skipAfterWhole
  rw [on_bind] at fractional ⊢
  cases mark : (accept ['.']).on input with
  | none => rw [mark] at fractional; cases fractional
  | some result =>
      rw [mark, Option.bind_some, on_ite] at fractional
      rw [Option.bind_some]
      dsimp only
      rw [on_ite]
      split at fractional
      · next present =>
          rw [on_map, Option.map_eq_some_iff] at fractional
          obtain ⟨⟨digits, afterDigits⟩, run, same⟩ := fractional
          cases same
          rw [if_pos present, on_bind, on_skipDigits run, Option.bind_some]
          exact last
      · next absent =>
          cases fractional
          rw [if_neg absent]
          exact last

theorem integerPart_cases {whole : List Nat} (read : integerPart.on input = some (whole, rest)) :
    (input = .char '0' :: rest ∧ whole = [0] ∧ ¬ atDigit rest = true) ∨
      ((∀ more, input ≠ .char '0' :: more) ∧ someDigits.on input = some (whole, rest)) := by
  unfold integerPart at read
  rw [on_bind, on_get, Option.bind_some] at read
  dsimp only at read
  split at read
  · rw [on_ite] at read
    split at read
    · cases read
    · next noDigit =>
        cases read
        exact Or.inl ⟨rfl, rfl, noDigit⟩
  · next other => exact Or.inr ⟨other, read⟩

theorem on_skipNumber {n : JsonNumber} (read : number.on input = some (n, rest)) :
    skipNumber.on input = some ((), rest) := by
  unfold number at read
  simp only [on_bind, Option.bind_eq_some_iff] at read
  obtain ⟨⟨sign, afterSign⟩, signed, ⟨whole, afterWhole⟩, integral, ⟨fraction, afterFraction⟩,
    fractional, ⟨exponent, afterExponent⟩, exponential, last⟩ := read
  have same : rest = afterExponent := (constant_numberOf _ _ _ _ _ _ _ last).1
  subst same
  have tail := on_skipAfterWhole fractional exponential
  dsimp only at integral tail
  unfold skipNumber
  rw [on_bind, signed, Option.bind_some, on_bind, on_get, Option.bind_some]
  dsimp only
  rcases integerPart_cases integral with ⟨rfl, -, noDigit⟩ | ⟨other, run⟩
  · show (if atDigit afterWhole = true then _ else (do set afterWhole; skipAfterWhole)).on _ = _
    rw [if_neg noDigit]
    exact tail
  · split
    · next rest => exact absurd rfl (other rest)
    · rw [on_bind, on_skipDigits run, Option.bind_some]
      exact tail

/-! ## Skipping values -/

theorem skipsSpace_skipValue (fuel : Nat) : SkipsSpace (skipValue fuel) := by
  cases fuel with
  | zero => exact fun _ => rfl
  | succ fuel => exact skipsSpace_of_peek _

theorem skipsSpace_skipItems (fuel : Nat) : SkipsSpace (skipItems fuel) := by
  cases fuel with
  | zero => exact fun _ => rfl
  | succ fuel => exact (skipsSpace_skipValue fuel).bind _

/-- Where a reader succeeds, skipping a value ends at the same place if it has two steps for
every glyph. -/
def Skippable (item : Scan α) : Prop :=
  ∀ input rest a fuel, item.on input = some (a, rest) → 2 * input.length + 2 ≤ fuel →
    (skipValue fuel).on input = some ((), rest)

theorem on_skipOn_close {close : Char} {ended expected : Error} (other : close ≠ ',')
    (start : bare input = .char close :: rest) :
    (skipOn close ended expected).on input = some (false, rest) := by
  simp [skipOn, start, other]

theorem on_skipOn_comma {close : Char} {ended expected : Error}
    (start : bare input = .char ',' :: rest) :
    (skipOn close ended expected).on input = some (true, rest) := by
  simp [skipOn, start]

theorem on_skipItems {item : Scan α} (leaves : LeavesEnd item) (skips : Skippable item)
    {clock next left : Input} {a : α} {others : List α} {fuel : Nat}
    (read : item.on next = some (a, left))
    (more : (itemsWithin item clock false).on left = some (others, rest))
    (enough : 2 * next.length + 3 ≤ fuel) : (skipItems fuel).on next = some ((), rest) := by
  -- The reader's clock drives the induction; what the item took pays for the skipper's steps.
  induction clock generalizing next left a others fuel with
  | nil => cases more
  | cons g clock ih =>
      obtain ⟨fuel, rfl⟩ := Nat.exists_eq_succ_of_ne_zero (show fuel ≠ 0 by omega)
      have shorter := (leaves _ _ _ read).length_le
      have skipped := skips _ _ _ fuel read (by omega)
      rw [skipItems, on_bind, skipped, Option.bind_some, on_bind]
      have bound := length_bare_le left
      cases itemsWithin_step more with
      | ended stop =>
          rw [on_skipOn_close (by decide) stop]
          rfl
      | more goesOn read more =>
          generalize start : bare left = text at goesOn bound
          cases goesOn with
          | @comma h middle body startNext other =>
              have boundNext := length_bare_le middle
              rw [startNext] at boundNext
              rw [on_skipOn_comma start, Option.bind_some, if_pos rfl, skipsSpace_skipItems,
                startNext]
              refine ih read more ?_
              simp only [List.length_cons] at bound boundNext ⊢
              omega

theorem on_skipMembers {item : Scan Json} (leaves : LeavesEnd item) (skips : Skippable item)
    {clock body afterKey left : Input} {key : String} {seen entries all : List (String × Json)}
    {fuel : Nat} (start : bare input = .char '"' :: body)
    (named : stringBody.on body = some (key, afterKey))
    (read : (keep item key seen).on afterKey = some (entries, left))
    (more : (membersWithin (keep item) clock false entries).on left = some (all, rest))
    (enough : 2 * input.length + 3 ≤ fuel) : (skipMembers fuel).on input = some ((), rest) := by
  induction clock generalizing input body afterKey left key seen entries fuel with
  | nil => cases more
  | cons g clock ih =>
      obtain ⟨fuel, rfl⟩ := Nat.exists_eq_succ_of_ne_zero (show fuel ≠ 0 by omega)
      obtain ⟨value, v, colonStart, valueRead, rfl⟩ := keep_cases read
      have boundInput := length_bare_le input
      have shorter := (leavesEnd_stringBody _ _ _ named).length_le
      have boundKey := length_bare_le afterKey
      have shortest := (leaves _ _ _ valueRead).length_le
      rw [start] at boundInput
      rw [colonStart] at boundKey
      simp only [List.length_cons] at boundInput boundKey
      have skipped := skips _ _ _ fuel valueRead (by omega)
      have after : (skipMembers (fuel + 1)).on input =
          ((skipOn '\x7d' .endInObject .expectedObjectEnd).on left).bind fun result =>
            (if result.1 then skipMembers fuel else pure ()).on result.2 := by
        simp [skipMembers, start, on_skipString named, on_colon_iff.2 colonStart, skipped]
      rw [after]
      have bound := length_bare_le left
      cases membersWithin_step more with
      | ended stop =>
          rw [on_skipOn_close (by decide) stop]
          rfl
      | more goesOn named read more =>
          generalize start : bare left = text at goesOn bound
          cases goesOn with
          | comma startNext =>
              rw [on_skipOn_comma start, Option.bind_some, if_pos rfl]
              refine ih startNext named read more ?_
              simp only [List.length_cons] at bound ⊢
              omega

def skipArray (fuel : Nat) : Scan Unit := do
  skip
  match ← peek with
  | none => fail .endInList
  | some (.char ']') => skip
  | some _ => skipItems fuel

def skipObject (fuel : Nat) : Scan Unit := do
  skip
  match ← peek with
  | none => fail .endInObject
  | some (.char '\x7d') => skip
  | some _ => skipMembers fuel

theorem on_skipArray {item : Scan α} (leaves : LeavesEnd item) (skips : Skippable item)
    {body : Input} {xs : List α} {fuel : Nat} (read : (items item).on body = some (xs, rest))
    (enough : 2 * body.length + 3 ≤ fuel) (open_ : Glyph) :
    (skipArray fuel).on (open_ :: body) = some ((), rest) := by
  rw [skipArray, on_bind, on_skip, Option.bind_some, on_bind, on_peek, Option.bind_some,
    List.drop_one, List.tail_cons]
  have bound := length_bare_le body
  cases body with
  | nil => cases read
  | cons g clock =>
      cases itemsWithin_step read with
      | ended stop =>
          rw [stop]
          rfl
      | more goesOn itemRead more =>
          generalize bare (g :: clock) = text at goesOn bound
          cases goesOn with
          | @first h tail other =>
              have steps : 2 * (h :: tail).length + 3 ≤ fuel := by omega
              have skipped := on_skipItems leaves skips itemRead more steps
              simp [skipped]

theorem on_skipObject {item : Scan Json} (leaves : LeavesEnd item) (skips : Skippable item)
    {body : Input} {entries : List (String × Json)} {fuel : Nat}
    (read : (members (keep item) []).on body = some (entries, rest))
    (enough : 2 * body.length + 3 ≤ fuel) (open_ : Glyph) :
    (skipObject fuel).on (open_ :: body) = some ((), rest) := by
  rw [skipObject, on_bind, on_skip, Option.bind_some, on_bind, on_peek, Option.bind_some,
    List.drop_one, List.tail_cons]
  have bound := length_bare_le body
  have again := bare_bare body
  cases body with
  | nil => cases read
  | cons g clock =>
      cases membersWithin_step read with
      | ended stop =>
          rw [stop]
          rfl
      | more goesOn named memberRead more =>
          generalize bare (g :: clock) = text at goesOn bound again
          cases goesOn with
          | first =>
              refine on_skipMembers leaves skips again named memberRead more ?_
              dsimp only
              omega

/-- A value that can be read can be skipped. -/
theorem skippable_valueOver {nested : Option (Scan Json)}
    (leaves : ∀ item, nested = some item → LeavesEnd item)
    (skips : ∀ item, nested = some item → Skippable item) : Skippable (valueOver nested) := by
  intro input rest tree fuel read enough
  obtain ⟨fuel, rfl⟩ := Nat.exists_eq_succ_of_ne_zero (show fuel ≠ 0 by omega)
  rw [on_valueOver_iff] at read
  have bound := length_bare_le input
  rw [skipsSpace_skipValue]
  -- From here on both walks stand at the same glyph.
  generalize start : bare input = text at read bound
  have solid : bare text = text := by rw [← start, bare_bare]
  clear start
  rw [skipValue, on_bind, on_peek, Option.bind_some, solid]
  cases read with
  | null => exact on_word_letters _ rest
  | yes => exact on_word_letters _ rest
  | no => exact on_word_letters _ rest
  | string read =>
      have skipped := on_skipString read
      simpa using skipped
  | array allowed read =>
      rw [List.length_cons] at bound
      exact on_skipArray (leaves _ allowed) (skips _ allowed) read (by omega) _
  | object allowed read =>
      rw [List.length_cons] at bound
      exact on_skipObject (leaves _ allowed) (skips _ allowed) read (by omega) _
  | number begins read =>
      obtain ⟨noNull, noTrue, noFalse, noQuote, noArray, noObject⟩ := ne_of_beginsNumber begins
      have skipped := on_skipNumber read
      simp [begins, skipped]

theorem skippable_value (levels : Nat) : Skippable (value levels) := by
  induction levels with
  | zero =>
      apply skippable_valueOver
      · rintro _ ⟨⟩
      · rintro _ ⟨⟩
  | succ levels ih =>
      apply skippable_valueOver
      · rintro _ ⟨⟩
        exact leavesEnd_value levels
      · rintro _ ⟨⟩
        exact ih

theorem on_skipAny {levels : Nat} {tree : Json}
    (read : (value levels).on input = some (tree, rest)) : skipAny.on input = some ((), rest) := by
  rw [skipAny, on_bind, on_get, Option.bind_some]
  exact skippable_value levels _ _ _ _ read (Nat.le_refl _)

end HolderBond.Json.Scan
