import HolderBond.Text.Utf8

/-!
# UTF-8 is read back

The glyphs of the bytes of a text are the characters of the text.  A character is settled by
the ranges that its number falls into, each range fixing the number of its bytes; texts follow
by induction, so that different texts have different bytes.
-/

set_option autoImplicit false

namespace HolderBond.Text

/-! ## One character -/

theorem toNat_byte {n : Nat} (small : n < 256) : (UInt8.ofNat n).toNat = n := by
  simp [Nat.mod_eq_of_lt small]

theorem isTail_iff (b : UInt8) : isTail b = true ↔ 0x80 ≤ b.toNat ∧ b.toNat ≤ 0xBF := by
  simp [isTail, UInt8.le_iff_toNat_le]

theorem isSecondOfThree_iff (a b : UInt8) :
    isSecondOfThree a b = true ↔
      0x80 ≤ b.toNat ∧ b.toNat ≤ 0xBF ∧ (a.toNat = 0xE0 → 0xA0 ≤ b.toNat) ∧
        (a.toNat = 0xED → b.toNat ≤ 0x9F) := by
  simp only [isSecondOfThree, Bool.or_eq_true, Bool.and_eq_true, beq_iff_eq, bne_iff_ne, ne_eq,
    isTail_iff, decide_eq_true_eq, UInt8.le_iff_toNat_le, ← UInt8.toNat_inj, UInt8.reduceToNat]
  omega

theorem isSecondOfFour_iff (a b : UInt8) :
    isSecondOfFour a b = true ↔
      0x80 ≤ b.toNat ∧ b.toNat ≤ 0xBF ∧ (a.toNat = 0xF0 → 0x90 ≤ b.toNat) ∧
        (a.toNat = 0xF4 → b.toNat ≤ 0x8F) := by
  simp only [isSecondOfFour, Bool.or_eq_true, Bool.and_eq_true, beq_iff_eq, bne_iff_ne, ne_eq,
    isTail_iff, decide_eq_true_eq, UInt8.le_iff_toNat_le, ← UInt8.toNat_inj, UInt8.reduceToNat]
  omega

theorem char_ranges (c : Char) : c.toNat < 0xD800 ∨ (0xDFFF < c.toNat ∧ c.toNat < 0x110000) :=
  c.valid

/-- Which branch a leading byte takes depends on its range alone. -/
theorem firstGlyph_one {a : UInt8} (rest : List UInt8) (range : a.toNat < 0x80) :
    firstGlyph a rest = (.char (Char.ofNat a.toNat), 1) := by
  simp [firstGlyph, UInt8.lt_iff_toNat_lt, range]

theorem firstGlyph_two {a b : UInt8} (rest : List UInt8)
    (range : 0xC2 ≤ a.toNat ∧ a.toNat ≤ 0xDF) (tail : isTail b = true) :
    firstGlyph a (b :: rest) = (.char (Char.ofNat (a.toNat % 32 * 64 + tailBits b)), 2) := by
  have high : ¬ a.toNat < 0x80 := by omega
  simp [firstGlyph, UInt8.lt_iff_toNat_lt, UInt8.le_iff_toNat_le, high, range, tail]

theorem firstGlyph_three {a b c : UInt8} (rest : List UInt8)
    (range : 0xE0 ≤ a.toNat ∧ a.toNat ≤ 0xEF) (second : isSecondOfThree a b = true)
    (tail : isTail c = true) :
    firstGlyph a (b :: c :: rest) =
      (.char (Char.ofNat ((a.toNat % 16 * 64 + tailBits b) * 64 + tailBits c)), 3) := by
  have high : ¬ a.toNat < 0x80 := by omega
  have notTwo : ¬ (0xC2 ≤ a.toNat ∧ a.toNat ≤ 0xDF) := by omega
  simp [firstGlyph, UInt8.lt_iff_toNat_lt, UInt8.le_iff_toNat_le, high, notTwo, range, second, tail]

theorem firstGlyph_four {a b c d : UInt8} (rest : List UInt8)
    (range : 0xF0 ≤ a.toNat ∧ a.toNat ≤ 0xF4) (second : isSecondOfFour a b = true)
    (third : isTail c = true) (tail : isTail d = true) :
    firstGlyph a (b :: c :: d :: rest) =
      (.char (Char.ofNat (((a.toNat % 8 * 64 + tailBits b) * 64 + tailBits c) * 64 + tailBits d)),
        4) := by
  have high : ¬ a.toNat < 0x80 := by omega
  have notTwo : ¬ (0xC2 ≤ a.toNat ∧ a.toNat ≤ 0xDF) := by omega
  have notThree : ¬ (0xE0 ≤ a.toNat ∧ a.toNat ≤ 0xEF) := by omega
  simp [firstGlyph, UInt8.lt_iff_toNat_lt, UInt8.le_iff_toNat_le, high, notTwo, notThree, range,
    second, third, tail]

/-- The bytes of a character are read as that character, and all of them are taken. -/
theorem firstGlyph_encode (c : Char) (more : List UInt8) :
    ∃ a rest, String.utf8EncodeChar c = a :: rest ∧
      firstGlyph a (rest ++ more) = (.char c, rest.length + 1) := by
  have ranges := char_ranges c
  have number : c.val.toNat = c.toNat := rfl
  have whole : ∀ n, n = c.toNat → Char.ofNat n = c := by
    intro n same
    rw [same]
    exact Char.ofNat_toNat c
  simp only [String.utf8EncodeChar, number]
  generalize c.toNat = n at ranges whole
  split
  · refine ⟨_, _, rfl, ?_⟩
    have low := toNat_byte (n := n) (by omega)
    rw [firstGlyph_one _ (by omega), low, whole n rfl]
    rfl
  · split
    · have first := toNat_byte (n := n / 64 % 0x20 + 0xc0) (by omega)
      have second := toNat_byte (n := n % 0x40 + 0x80) (by omega)
      refine ⟨_, _, rfl, ?_⟩
      rw [List.cons_append, firstGlyph_two _ (by omega) ((isTail_iff _).2 (by omega)), tailBits,
        first, second, whole _ (by omega)]
      rfl
    · split
      · have first := toNat_byte (n := n / 4096 % 0x10 + 0xe0) (by omega)
        have second := toNat_byte (n := n / 64 % 0x40 + 0x80) (by omega)
        have third := toNat_byte (n := n % 0x40 + 0x80) (by omega)
        refine ⟨_, _, rfl, ?_⟩
        rw [List.cons_append, List.cons_append,
          firstGlyph_three _ (by omega) ((isSecondOfThree_iff _ _).2 (by omega))
            ((isTail_iff _).2 (by omega)),
          tailBits, tailBits, first, second, third, whole _ (by omega)]
        rfl
      · have first := toNat_byte (n := n / 262144 % 0x08 + 0xf0) (by omega)
        have second := toNat_byte (n := n / 4096 % 0x40 + 0x80) (by omega)
        have third := toNat_byte (n := n / 64 % 0x40 + 0x80) (by omega)
        have fourth := toNat_byte (n := n % 0x40 + 0x80) (by omega)
        refine ⟨_, _, rfl, ?_⟩
        rw [List.cons_append, List.cons_append, List.cons_append,
          firstGlyph_four _ (by omega) ((isSecondOfFour_iff _ _).2 (by omega))
            ((isTail_iff _).2 (by omega)) ((isTail_iff _).2 (by omega)),
          tailBits, tailBits, tailBits, first, second, third, fourth, whole _ (by omega)]
        rfl

/-! ## Whole texts -/

theorem decodeWithin_utf8Chars (cs : List Char) (bound : Nat)
    (enough : (utf8Chars cs).length ≤ bound) :
    decodeWithin bound (utf8Chars cs) = cs.map .char := by
  induction cs generalizing bound with
  | nil => cases bound <;> rfl
  | cons c cs ih =>
      obtain ⟨a, rest, bytes, glyph⟩ := firstGlyph_encode c (utf8Chars cs)
      have split : utf8Chars (c :: cs) = a :: (rest ++ utf8Chars cs) := by
        rw [utf8Chars, List.flatMap_cons, bytes]
        rfl
      rw [split] at enough ⊢
      cases bound with
      | zero => simp at enough
      | succ bound =>
          have fits : (utf8Chars cs).length ≤ bound := by
            simp only [List.length_cons, List.length_append] at enough
            omega
          simp only [decodeWithin, glyph, Nat.add_sub_cancel, List.drop_left, ih bound fits,
            List.map_cons]

theorem decode_utf8 (s : String) : decode (utf8 s) = glyphs s :=
  decodeWithin_utf8Chars s.toList _ (Nat.le_refl _)

theorem ofUtf8?_utf8 (s : String) : ofUtf8? (utf8 s) = some s := by
  have letters : ∀ step : Glyph → Option (List Char) → Option (List Char),
      (∀ c acc, step (.char c) acc = acc.map (c :: ·)) →
      ∀ cs : List Char, (cs.map Glyph.char).foldr step (some []) = some cs := by
    intro step collects cs
    induction cs with
    | nil => rfl
    | cons c cs ih => rw [List.map_cons, List.foldr_cons, ih, collects, Option.map_some]
  rw [ofUtf8?, decode_utf8, glyphs]
  exact (congrArg _ (letters _ (fun _ _ => rfl) s.toList)).trans
    (congrArg some String.ofList_toList)

theorem utf8_injective {s t : String} (same : utf8 s = utf8 t) : s = t := by
  have glyphsSame : glyphs s = glyphs t := by rw [← decode_utf8, ← decode_utf8, same]
  have lists : s.toList = t.toList :=
    (List.map_inj_right fun _ _ equal => Glyph.char.inj equal).1 glyphsSame
  exact String.toList_inj.1 lists

/-- The bytes of a text of ASCII characters are the numbers of its characters. -/
theorem utf8Chars_ascii (cs : List Char) (ascii : ∀ c ∈ cs, c.toNat < 0x80) :
    utf8Chars cs = cs.map fun c => UInt8.ofNat c.toNat := by
  induction cs with
  | nil => rfl
  | cons c cs ih =>
      have low : c.val.toNat ≤ 0x7f := by
        have := ascii c (List.mem_cons_self ..)
        exact Nat.le_of_lt_succ this
      have rest := ih fun d member => ascii d (List.mem_cons_of_mem _ member)
      rw [utf8Chars, List.flatMap_cons, String.utf8EncodeChar, if_pos low, List.map_cons, ← rest]
      rfl

/-! ## ASCII characters among the bytes -/

theorem utf8Chars_append (cs ds : List Char) :
    utf8Chars (cs ++ ds) = utf8Chars cs ++ utf8Chars ds :=
  List.flatMap_append

theorem utf8EncodeChar_of_mem_ascii {c : Char} {b : UInt8} (low : b.toNat < 0x80)
    (member : b ∈ String.utf8EncodeChar c) :
    c.toNat = b.toNat ∧ String.utf8EncodeChar c = [b] := by
  have high : ∀ {n : Nat}, 0x80 ≤ n → n < 0x100 → b ≠ UInt8.ofNat n := by
    intro n atLeast below same
    rw [same, toNat_byte below] at low
    omega
  have number : c.val.toNat = c.toNat := rfl
  simp only [String.utf8EncodeChar, number] at member ⊢
  generalize c.toNat = n at member ⊢
  split at member
  · rename_i ascii
    have here := List.mem_singleton.1 member
    rw [if_pos ascii, ← here]
    exact ⟨by rw [here, toNat_byte (by omega)], rfl⟩
  · exfalso
    split at member
    · simp only [List.mem_cons, List.not_mem_nil, or_false] at member
      rcases member with here | here <;> exact high (by omega) (by omega) here
    · split at member <;>
        simp only [List.mem_cons, List.not_mem_nil, or_false] at member
      · rcases member with here | here | here <;> exact high (by omega) (by omega) here
      · rcases member with here | here | here | here <;> exact high (by omega) (by omega) here

/-- A text can be cut at any ASCII character of its bytes. -/
theorem utf8Chars_eq_append_cons (mark : Char) (ascii : mark.toNat < 0x80) {cs : List Char}
    {front back : List UInt8}
    (split : utf8Chars cs = front ++ UInt8.ofNat mark.toNat :: back) :
    ∃ ds es, cs = ds ++ mark :: es ∧ front = utf8Chars ds ∧ back = utf8Chars es := by
  have low : (UInt8.ofNat mark.toNat).toNat = mark.toNat := toNat_byte (by omega)
  induction cs generalizing front with
  | nil => simp [utf8Chars] at split
  | cons c cs ih =>
      rw [utf8Chars, List.flatMap_cons, ← utf8Chars] at split
      rcases List.append_eq_append_iff.1 split with
        ⟨middle, frontSame, rest⟩ | ⟨middle, bytesSame, rest⟩
      · obtain ⟨ds, es, csSame, middleSame, backSame⟩ := ih rest
        refine ⟨c :: ds, es, by rw [csSame, List.cons_append], ?_, backSame⟩
        rw [frontSame, middleSame]
        rfl
      · cases middle with
        | nil =>
            have atOnce : utf8Chars cs = [] ++ UInt8.ofNat mark.toNat :: back := rest.symm
            obtain ⟨ds, es, csSame, frontSame, backSame⟩ := ih atOnce
            refine ⟨c :: ds, es, by rw [csSame, List.cons_append], ?_, backSame⟩
            rw [utf8Chars, List.flatMap_cons, ← utf8Chars, ← frontSame, bytesSame,
              List.append_nil, List.append_nil]
        | cons b middle =>
            -- The mark lies among the bytes of `c`, so `c` is the mark.
            rw [List.cons_append, List.cons.injEq] at rest
            obtain ⟨here, backSame⟩ := rest
            have member : UInt8.ofNat mark.toNat ∈ String.utf8EncodeChar c := by
              rw [bytesSame, here]
              simp
            obtain ⟨number, bytes⟩ := utf8EncodeChar_of_mem_ascii (by omega) member
            have isMark : c = mark := Char.toNat_inj.1 (number.trans low)
            rw [bytes] at bytesSame
            cases front with
            | nil =>
                simp only [List.nil_append, List.cons.injEq] at bytesSame
                refine ⟨[], cs, by rw [isMark, List.nil_append], rfl, ?_⟩
                rw [backSame, ← bytesSame.2, List.nil_append]
            | cons a front => simp at bytesSame

end HolderBond.Text
