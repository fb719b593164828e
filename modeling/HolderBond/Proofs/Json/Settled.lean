import HolderBond.Proofs.Decimal.Approximate
import HolderBond.Proofs.Json.Floats
import HolderBond.Proofs.Json.Levels

/-!
# What becomes of numbers that are printed and read

Integers are read back from their text.  A float need not be, for its digits are read by rounded
arithmetic: the result may be a neighbour of the float that was printed.  Where a number is read
back it is settled, and a tree is settled where all of its numbers are.
-/

set_option autoImplicit false

namespace HolderBond

open Json Json.Scan

namespace JsonNumber

def reread? (n : JsonNumber) : Option JsonNumber :=
  (Scan.number.run (letters (numberChars n))).toOption

/-- A number that its own text is read as. -/
def Settled (n : JsonNumber) : Prop :=
  n.reread? = some n

instance : DecidablePred Settled := fun n => inferInstanceAs (Decidable (n.reread? = some n))

end JsonNumber

namespace Json

variable {n m : JsonNumber} {rest left : Input}

/-- Whatever follows a printed number, its text alone tells what it is read as. -/
theorem reread?_of_on_number (ends : EndsNumber rest)
    (read : Scan.number.on (letters (numberChars n) ++ rest) = some (m, left)) :
    WrittenNumber m (numberChars n) ∧ left = rest := by
  obtain ⟨numeral, negative, good, text, -⟩ := exists_of_numberChars n
  have exponent := Numeral.writtenExponent_exponentChars numeral.exponent
  rw [text, Numeral.printed, on_number good exponent negative ends] at read
  obtain ⟨same, means⟩ := constant_numberOf _ _ _ _ _ _ _ read
  rw [text, Numeral.printed]
  exact ⟨.numeral good exponent means, same⟩

theorem endsNumber_nil : EndsNumber [] := by
  rintro _ ⟨⟩

theorem reread?_eq_some_iff : n.reread? = some m ↔ WrittenNumber m (numberChars n) := by
  rw [JsonNumber.reread?, toOption_eq_some, run_eq_ok]
  constructor
  · rintro ⟨left, read, -⟩
    rw [← List.append_nil (letters _)] at read
    exact (reread?_of_on_number endsNumber_nil read).1
  · intro written
    have read := on_number_of_written written endsNumber_nil
    rw [List.append_nil] at read
    exact ⟨[], read, rfl⟩

end Json

/-! ## Settled numbers -/

namespace JsonNumber

theorem settled_of_means {n : JsonNumber} {numeral : Numeral} (negative : Bool)
    (good : numeral.WellFormed) (text : numberChars n = numeral.printed negative)
    (means : numeral.meaning negative = pure n) : n.Settled := by
  rw [Settled, reread?_eq_some_iff, text]
  refine .numeral good (Numeral.writtenExponent_exponentChars _) fun rest => ?_
  rw [means]
  rfl

theorem settled_natural (n : UInt64) : (natural n).Settled := by
  refine settled_of_means false (Numeral.natural_wellFormed n.toNat)
    (Numeral.printed_natural n.toNat false).symm ?_
  rw [Numeral.meaning_natural n.toNat_lt]
  simp [integer]

theorem settled_negative (k : Fin 0x8000000000000000) : (negative k).Settled := by
  have small : k.val + 1 < UInt64.size := Nat.lt_trans (Nat.succ_lt_succ k.isLt) (by decide)
  refine settled_of_means true (Numeral.natural_wellFormed (k.val + 1))
    (Numeral.printed_natural (k.val + 1) true).symm ?_
  rw [Numeral.meaning_natural small]
  simp [integer]

/-- A float is settled that is printed as a numeral of few digits not far from the point. -/
theorem settled_float {x : Binary64} {numeral : Numeral} (good : numeral.WellFormed)
    (text : numberChars (.float x) = numeral.printed x.negative)
    (small : numeral.digits < 0x20000000000000) (near : numeral.power.natAbs ≤ 22) :
    (float x).Settled := by
  obtain ⟨found, fine, printed, marked, value⟩ := exists_of_float x
  have same : found.parts x.negative = numeral.parts x.negative := by
    have left := on_numberParts_printed fine x.negative endsNumber_nil
    have right := on_numberParts_printed good x.negative endsNumber_nil
    rw [← text, printed, left, Option.some.injEq] at right
    exact congrArg Prod.fst right
  obtain ⟨digits, power⟩ := Numeral.digits_of_parts same
  rw [← digits] at small
  rw [← power] at near
  have read : Binary64.approximate? x.negative found.digits found.power = some x := by
    rcases value with ⟨zero, none⟩ | ⟨nonzero, rounds⟩
    · rw [none, Binary64.approximate?_zero, ← Binary64.eq_zero_of_isZero zero]
    · exact Binary64.approximate?_of_rounds nonzero small near rounds
  refine settled_of_means x.negative fine printed ?_
  rw [Numeral.meaning_float marked (Nat.lt_trans small (by decide)), floating, read]

end JsonNumber

/-! ## Trees -/

namespace Json

mutual

/-- What the text of a tree is read as: every number becomes what its own text is read as. -/
def reread? : Json → Option Json
  | .number n => .number <$> n.reread?
  | .array xs => .array <$> rereadItems? xs
  | .object ms => .object <$> rereadMembers? ms
  | .null => some .null
  | .bool b => some (.bool b)
  | .string s => some (.string s)

def rereadItems? : List Json → Option (List Json)
  | [] => some []
  | x :: xs => do
      let y ← x.reread?
      let ys ← rereadItems? xs
      return y :: ys

def rereadMembers? : List (String × Json) → Option (List (String × Json))
  | [] => some []
  | (k, v) :: ms => do
      let w ← v.reread?
      let ns ← rereadMembers? ms
      return (k, w) :: ns

end

/-- A tree that its own text is read as, however deep it is. -/
def Settled (tree : Json) : Prop :=
  tree.reread? = some tree

instance : DecidablePred Settled := fun tree =>
  inferInstanceAs (Decidable (tree.reread? = some tree))

theorem reread?_array_eq_some_iff {xs : List Json} {k : Json} :
    (Json.array xs).reread? = some k ↔ ∃ ys, rereadItems? xs = some ys ∧ k = .array ys := by
  simp [reread?, eq_comm]

theorem reread?_object_eq_some_iff {ms : List (String × Json)} {k : Json} :
    (Json.object ms).reread? = some k ↔ ∃ ns, rereadMembers? ms = some ns ∧ k = .object ns := by
  simp [reread?, eq_comm]

theorem rereadItems?_cons_eq_some_iff {x : Json} {xs ys : List Json} :
    rereadItems? (x :: xs) = some ys ↔
      ∃ y others, x.reread? = some y ∧ rereadItems? xs = some others ∧ ys = y :: others := by
  simp only [rereadItems?, Option.bind_eq_bind, Option.bind_eq_some_iff, Option.pure_def,
    Option.some.injEq]
  constructor
  · rintro ⟨y, first, others, later, rfl⟩
    exact ⟨y, others, first, later, rfl⟩
  · rintro ⟨y, others, first, later, rfl⟩
    exact ⟨y, first, others, later, rfl⟩

theorem rereadMembers?_cons_eq_some_iff {key : String} {v : Json} {ms ns : List (String × Json)} :
    rereadMembers? ((key, v) :: ms) = some ns ↔
      ∃ w others, v.reread? = some w ∧ rereadMembers? ms = some others ∧
        ns = (key, w) :: others := by
  simp only [rereadMembers?, Option.bind_eq_bind, Option.bind_eq_some_iff, Option.pure_def,
    Option.some.injEq]
  constructor
  · rintro ⟨w, first, others, later, rfl⟩
    exact ⟨w, others, first, later, rfl⟩
  · rintro ⟨w, others, first, later, rfl⟩
    exact ⟨w, first, others, later, rfl⟩

-- Nothing but numbers changes, so the levels stay.
mutual

theorem levels_of_reread? : (j : Json) → {k : Json} → j.reread? = some k → k.levels = j.levels
  | .null, _, back => by cases back; rfl
  | .bool _, _, back => by cases back; rfl
  | .string _, _, back => by cases back; rfl
  | .number n, k, back => by
      obtain ⟨m, -, rfl⟩ := Option.map_eq_some_iff.1 back
      rfl
  | .array xs, k, back => by
      obtain ⟨ys, items, rfl⟩ := reread?_array_eq_some_iff.1 back
      rw [levels, levels, itemsLevels_of_rereadItems? xs items]
  | .object ms, k, back => by
      obtain ⟨ns, members, rfl⟩ := reread?_object_eq_some_iff.1 back
      rw [levels, levels, membersLevels_of_rereadMembers? ms members]

theorem itemsLevels_of_rereadItems? : (xs : List Json) → {ys : List Json} →
    rereadItems? xs = some ys → itemsLevels ys = itemsLevels xs
  | [], _, back => by cases back; rfl
  | x :: xs, _, back => by
      obtain ⟨y, others, first, later, rfl⟩ := rereadItems?_cons_eq_some_iff.1 back
      rw [itemsLevels, itemsLevels, levels_of_reread? x first,
        itemsLevels_of_rereadItems? xs later]

theorem membersLevels_of_rereadMembers? : (ms : List (String × Json)) →
    {ns : List (String × Json)} → rereadMembers? ms = some ns →
      membersLevels ns = membersLevels ms
  | [], _, back => by cases back; rfl
  | (_, v) :: ms, _, back => by
      obtain ⟨w, others, first, later, rfl⟩ := rereadMembers?_cons_eq_some_iff.1 back
      rw [membersLevels, membersLevels, levels_of_reread? v first,
        membersLevels_of_rereadMembers? ms later]

end

theorem rereadItems?_eq_self_iff {xs : List Json} :
    rereadItems? xs = some xs ↔ ∀ x ∈ xs, x.Settled := by
  induction xs with
  | nil => simp [rereadItems?]
  | cons x xs ih =>
      rw [rereadItems?_cons_eq_some_iff, List.forall_mem_cons, ← ih, Settled]
      constructor
      · rintro ⟨y, others, first, later, ⟨⟩⟩
        exact ⟨first, later⟩
      · rintro ⟨first, later⟩
        exact ⟨x, xs, first, later, rfl⟩

theorem rereadMembers?_eq_self_iff {ms : List (String × Json)} :
    rereadMembers? ms = some ms ↔ ∀ m ∈ ms, m.2.Settled := by
  induction ms with
  | nil => simp [rereadMembers?]
  | cons m ms ih =>
      obtain ⟨key, v⟩ := m
      rw [rereadMembers?_cons_eq_some_iff, List.forall_mem_cons, ← ih, Settled]
      constructor
      · rintro ⟨w, others, first, later, ⟨⟩⟩
        exact ⟨first, later⟩
      · rintro ⟨first, later⟩
        exact ⟨v, ms, first, later, rfl⟩

theorem settled_array_iff {xs : List Json} :
    (Json.array xs).Settled ↔ ∀ x ∈ xs, x.Settled := by
  rw [← rereadItems?_eq_self_iff, Settled, reread?_array_eq_some_iff]
  simp

theorem settled_object_iff {ms : List (String × Json)} :
    (Json.object ms).Settled ↔ ∀ m ∈ ms, m.2.Settled := by
  rw [← rereadMembers?_eq_self_iff, Settled, reread?_object_eq_some_iff]
  simp

theorem settled_number_iff {n : JsonNumber} : (Json.number n).Settled ↔ n.Settled := by
  simp [Settled, reread?, JsonNumber.Settled]

/-! ## The numbers of a tree -/

mutual

def numbers : Json → List JsonNumber
  | .number n => [n]
  | .array xs => itemsNumbers xs
  | .object ms => membersNumbers ms
  | .null | .bool _ | .string _ => []

def itemsNumbers : List Json → List JsonNumber
  | [] => []
  | x :: xs => x.numbers ++ itemsNumbers xs

def membersNumbers : List (String × Json) → List JsonNumber
  | [] => []
  | (_, v) :: ms => v.numbers ++ membersNumbers ms

end

mutual

theorem settled_iff_numbers : (j : Json) → (j.Settled ↔ ∀ n ∈ j.numbers, n.Settled)
  | .null => iff_of_true rfl (List.forall_mem_nil _)
  | .bool _ => iff_of_true rfl (List.forall_mem_nil _)
  | .string _ => iff_of_true rfl (List.forall_mem_nil _)
  | .number _ => settled_number_iff.trans List.forall_mem_singleton.symm
  | .array xs => settled_array_iff.trans (settled_items_iff xs)
  | .object ms => settled_object_iff.trans (settled_members_iff ms)

theorem settled_items_iff : (xs : List Json) →
    ((∀ x ∈ xs, x.Settled) ↔ ∀ n ∈ itemsNumbers xs, n.Settled)
  | [] => iff_of_true (List.forall_mem_nil _) (List.forall_mem_nil _)
  | x :: xs => by
      rw [List.forall_mem_cons, itemsNumbers, List.forall_mem_append, settled_iff_numbers x,
        settled_items_iff xs]

theorem settled_members_iff : (ms : List (String × Json)) →
    ((∀ m ∈ ms, m.2.Settled) ↔ ∀ n ∈ membersNumbers ms, n.Settled)
  | [] => iff_of_true (List.forall_mem_nil _) (List.forall_mem_nil _)
  | (_, v) :: ms => by
      rw [List.forall_mem_cons, membersNumbers, List.forall_mem_append, settled_iff_numbers v,
        settled_members_iff ms]

end

/-- A tree is settled exactly if each of its floats is read back from its own text. -/
theorem settled_iff_floats (j : Json) :
    j.Settled ↔ ∀ x, .float x ∈ j.numbers → (JsonNumber.float x).Settled := by
  rw [settled_iff_numbers]
  constructor
  · intro settled x member
    exact settled _ member
  · intro settled n member
    cases n with
    | natural n => exact JsonNumber.settled_natural n
    | negative k => exact JsonNumber.settled_negative k
    | float x => exact settled x member

end Json

end HolderBond
