import HolderBond.Proofs.Text.Pieces
import HolderBond.Proofs.Text.Utf8
import HolderBond.Proofs.Url.Query

/-!
# Queries with many parameters

A text is read back from the value of a parameter however many of its characters are escaped, but
for plus signs, which stand for blanks unless they are escaped.  Of the parameters of one name the
first is found, whatever the others are.
-/

set_option autoImplicit false

namespace HolderBond.Url

open Text (takeWhile_stop dropWhile_stop)

/-! ## Escapes -/

/-- A character that may stand in a link as it is, if it is no percent sign. -/
def StandsRaw (c : Char) : Prop :=
  32 < c.toNat ∧ c.toNat < 0x80 ∧ c ≠ '%' ∧ c ≠ '&' ∧ c ≠ '#'

instance (c : Char) : Decidable (StandsRaw c) := by
  unfold StandsRaw
  infer_instance

/-- The second text is the first with some of its characters as percent signs and two digits, of
either case. -/
inductive Written : List Char → List Char → Prop
  | nil : Written [] []
  | plain {cs ws : List Char} (c : Char) (rest : Written cs ws) : Written (c :: cs) (c :: ws)
  | escaped {cs ws : List Char} (c high low : Char)
      (highDigit : hexDigit? high = some (c.toNat / 16))
      (lowDigit : hexDigit? low = some (c.toNat % 16)) (rest : Written cs ws) :
      Written (c :: cs) ('%' :: high :: low :: ws)

theorem StandsRaw.solid {c : Char} (raw : StandsRaw c) :
    isMargin c = false ∧ Text.isBlank c = false := by
  obtain ⟨visible, ascii, -⟩ := raw
  simp only [isMargin, Text.isBlank, Bool.or_eq_false_iff, Bool.and_eq_false_iff,
    decide_eq_false_iff_not, beq_eq_false_iff_ne]
  omega

theorem Written.self (cs : List Char) : Written cs cs := by
  induction cs with
  | nil => exact .nil
  | cons c cs ih => exact .plain c ih

def escapeChosen (chosen : Char → Bool) (cs : List Char) : List Char :=
  cs.flatMap fun c =>
    if chosen c then ['%', Hex.digit (c.toNat / 16), Hex.digit (c.toNat % 16)] else [c]

theorem written_escapeChosen (chosen : Char → Bool) {cs : List Char}
    (ascii : ∀ c ∈ cs, c.toNat < 0x80) : Written cs (escapeChosen chosen cs) := by
  have digits : ∀ n : Fin 16, hexDigit? (Hex.digit n) = some n.val := by decide
  induction cs with
  | nil => exact .nil
  | cons c cs ih =>
      rw [List.forall_mem_cons] at ascii
      have rest := ih ascii.2
      rw [escapeChosen, List.flatMap_cons]
      by_cases escaped : chosen c
      · rw [if_pos escaped]
        exact .escaped c _ _ (digits ⟨c.toNat / 16, by omega⟩) (digits ⟨c.toNat % 16, by omega⟩) rest
      · rw [if_neg escaped]
        exact .plain c rest

theorem eq_digit_of_hexDigit? {c : Char} {n : Nat} (digit : hexDigit? c = some n) :
    c.toNat < 0x80 ∧ Hex.value? (UInt8.ofNat c.toNat) = some n := by
  unfold hexDigit? at digit
  split at digit
  · next ascii => exact ⟨ascii, digit⟩
  · cases digit

theorem standsRaw_of_hexDigit? {c : Char} {n : Nat} (digit : hexDigit? c = some n) :
    StandsRaw c ∧ c ≠ '+' := by
  obtain ⟨ascii, value⟩ := eq_digit_of_hexDigit? digit
  have ranges : (48 ≤ c.toNat ∧ c.toNat ≤ 57) ∨ (97 ≤ c.toNat ∧ c.toNat ≤ 102) ∨
      (65 ≤ c.toNat ∧ c.toNat ≤ 70) := by
    rw [Hex.value?, Text.toNat_byte (Nat.lt_trans ascii (by decide))] at value
    simp only [Bool.and_eq_true, decide_eq_true_eq] at value
    split at value
    · next range => exact Or.inl range
    · split at value
      · next range => exact Or.inr (Or.inl range)
      · split at value
        · next range => exact Or.inr (Or.inr range)
        · cases value
  have other : ∀ mark : Char, mark.toNat < 48 → c ≠ mark := by
    rintro mark low rfl
    omega
  refine ⟨⟨by omega, ascii, other _ (by decide), other _ (by decide), other _ (by decide)⟩, ?_⟩
  exact other _ (by decide)

theorem Written.forall_mem {property : Char → Prop} (holds : ∀ c, StandsRaw c → property c)
    (percent : property '%') {cs ws : List Char} (written : Written cs ws)
    (raw : ∀ c ∈ cs, StandsRaw c) : ∀ c ∈ ws, property c := by
  induction written with
  | nil => simp
  | plain c rest ih =>
      rw [List.forall_mem_cons] at raw ⊢
      exact ⟨holds c raw.1, ih raw.2⟩
  | escaped c high low highDigit lowDigit rest ih =>
      simp only [List.forall_mem_cons] at raw ⊢
      exact ⟨percent, holds _ (standsRaw_of_hexDigit? highDigit).1,
        holds _ (standsRaw_of_hexDigit? lowDigit).1, ih raw.2⟩

theorem Written.ne_nil {cs ws : List Char} (written : Written cs ws) (present : cs ≠ []) :
    ws ≠ [] := by
  cases written <;> simp_all

def spacedChar (c : Char) : Char :=
  if c == '+' then ' ' else c

theorem percentDecode_cons {b : UInt8} (other : b ≠ percent) (rest : List UInt8) :
    percentDecode (b :: rest) = b :: percentDecode rest := by
  match rest with
  | [] => rfl
  | [_] => rfl
  | _ :: _ :: _ => simp [percentDecode, other]

theorem ofUtf8Lossy_utf8Chars (cs : List Char) :
    Text.ofUtf8Lossy (Text.utf8Chars cs) = String.ofList cs := by
  have glyphs := Text.decode_utf8 (String.ofList cs)
  rw [Text.utf8, Text.glyphs, String.toList_ofList] at glyphs
  rw [Text.ofUtf8Lossy, glyphs, List.map_map]
  exact congrArg String.ofList (List.map_id cs)

theorem utf8Chars_cons_ascii {c : Char} (ascii : c.toNat < 0x80) (cs : List Char) :
    Text.utf8Chars (c :: cs) = UInt8.ofNat c.toNat :: Text.utf8Chars cs := by
  have one := Text.utf8Chars_ascii [c] (by simpa using ascii)
  rw [← List.singleton_append, Text.utf8Chars_append, one]
  rfl

theorem percentDecode_escape {b high low : UInt8} (highDigit : Hex.value? high = some (b.toNat / 16))
    (lowDigit : Hex.value? low = some (b.toNat % 16)) (rest : List UInt8) :
    percentDecode (percent :: high :: low :: rest) = b :: percentDecode rest := by
  have byte : UInt8.ofNat (16 * (b.toNat / 16) + b.toNat % 16) = b := by
    rw [Nat.div_add_mod, UInt8.ofNat_toNat]
  rw [percentDecode]
  simp only [beq_self_eq_true, if_true, highDigit, lowDigit, byte]

/-- The bytes of what is written are those of the text, but for blanks that stand for raw plus
signs. -/
theorem Written.percentDecode {cs ws : List Char} (written : Written cs ws)
    (raw : ∀ c ∈ cs, StandsRaw c) :
    ∃ us, Url.percentDecode (Text.utf8Chars (ws.map spacedChar)) = Text.utf8Chars us ∧
      us.map (fun c => if c == ' ' then '+' else c) = cs := by
  induction written with
  | nil => exact ⟨[], rfl, rfl⟩
  | plain c rest ih =>
      rw [List.forall_mem_cons] at raw
      obtain ⟨us, decoded, unspaced⟩ := ih raw.2
      obtain ⟨visible, ascii, noPercent, -, -⟩ := raw.1
      have spacedAscii : (spacedChar c).toNat < 0x80 := by
        rw [spacedChar]
        split
        · decide
        · exact ascii
      have other : UInt8.ofNat (spacedChar c).toNat ≠ percent := by
        intro same
        have number := congrArg UInt8.toNat same
        rw [Text.toNat_byte (Nat.lt_trans spacedAscii (by decide))] at number
        have isPercent : spacedChar c = '%' := Char.toNat_inj.1 number
        rw [spacedChar] at isPercent
        split at isPercent
        · cases isPercent
        · exact noPercent isPercent
      refine ⟨spacedChar c :: us, ?_, ?_⟩
      · rw [List.map_cons, utf8Chars_cons_ascii spacedAscii, percentDecode_cons other, decoded,
          utf8Chars_cons_ascii spacedAscii]
      · rw [List.map_cons, unspaced]
        congr 1
        by_cases plus : c = '+'
        · subst plus
          rfl
        · have noBlank : c ≠ ' ' := by
            rintro rfl
            exact absurd visible (by decide)
          simp [spacedChar, plus, noBlank]
  | escaped c high low highDigit lowDigit rest ih =>
      rw [List.forall_mem_cons] at raw
      obtain ⟨us, decoded, unspaced⟩ := ih raw.2
      obtain ⟨visible, ascii, -⟩ := raw.1
      have byte : (UInt8.ofNat c.toNat).toNat = c.toNat :=
        Text.toNat_byte (Nat.lt_trans ascii (by decide))
      obtain ⟨highAscii, highValue⟩ := eq_digit_of_hexDigit? highDigit
      obtain ⟨lowAscii, lowValue⟩ := eq_digit_of_hexDigit? lowDigit
      rw [← byte] at highValue lowValue
      have highKept : spacedChar high = high :=
        if_neg (by simpa using (standsRaw_of_hexDigit? highDigit).2)
      have lowKept : spacedChar low = low :=
        if_neg (by simpa using (standsRaw_of_hexDigit? lowDigit).2)
      refine ⟨c :: us, ?_, ?_⟩
      · rw [List.map_cons, List.map_cons, List.map_cons, highKept, lowKept,
          utf8Chars_cons_ascii (by decide), utf8Chars_cons_ascii highAscii,
          utf8Chars_cons_ascii lowAscii, utf8Chars_cons_ascii ascii, ← decoded]
        exact percentDecode_escape highValue lowValue _
      · have noBlank : c ≠ ' ' := by
          rintro rfl
          exact absurd visible (by decide)
        rw [List.map_cons, unspaced, if_neg (by simpa using noBlank)]

/-- However a text is written, it is read back once blanks are turned into plus signs. -/
theorem Written.formDecode {cs ws : List Char} (written : Written cs ws)
    (raw : ∀ c ∈ cs, StandsRaw c) :
    (Url.formDecode ws).toList.map (fun c => if c == ' ' then '+' else c) = cs := by
  obtain ⟨us, decoded, unspaced⟩ := written.percentDecode raw
  have whole : Url.formDecode ws = String.ofList us := by
    rw [← ofUtf8Lossy_utf8Chars, ← decoded]
    rfl
  rw [whole, String.toList_ofList, unspaced]

/-! ## Parameters in order -/

def firstNamed? (name : String) (query : List Char) : Option (String × String) :=
  (formPairs query).find? fun pair => pair.1 == name

theorem formPairs_append (query more : List Char) :
    formPairs (query ++ '&' :: more) = formPairs query ++ formPairs more := by
  rw [formPairs, Text.piecesBetween_append, List.filter_append, List.map_append]
  rfl

theorem formPairs_piece {piece : List Char} (whole : '&' ∉ piece) (present : piece ≠ []) :
    formPairs piece = [formPair piece] := by
  rw [formPairs, Text.piecesBetween_of_absent whole,
    List.filter_cons_of_pos (by simpa using present), List.filter_nil, List.map_singleton]

/-- A parameter of another name is passed over, an empty piece among them. -/
theorem firstNamed?_skip {name : String} {piece : List Char} (whole : '&' ∉ piece)
    (other : (formPair piece).1 ≠ name) (more : List Char) :
    firstNamed? name (piece ++ '&' :: more) = firstNamed? name more := by
  rw [firstNamed?, formPairs_append, List.find?_append]
  by_cases empty : piece = []
  · subst empty
    rfl
  · rw [formPairs_piece whole empty, List.find?_cons_of_neg (by simpa using other)]
    rfl

theorem firstNamed?_skip_all {name : String} {pieces : List (List Char)}
    (whole : ∀ piece ∈ pieces, '&' ∉ piece)
    (other : ∀ piece ∈ pieces, (formPair piece).1 ≠ name) (more : List Char) :
    firstNamed? name (pieces.flatMap (· ++ ['&']) ++ more) = firstNamed? name more := by
  induction pieces with
  | nil => rfl
  | cons piece pieces ih =>
      rw [List.forall_mem_cons] at whole other
      rw [List.flatMap_cons, List.append_assoc, List.append_assoc, List.singleton_append,
        firstNamed?_skip whole.1 other.1, ih whole.2 other.2]

theorem formPair_eq {name : List Char} (plain : '=' ∉ name) (value : List Char) :
    formPair (name ++ '=' :: value) = (formDecode name, formDecode value) := by
  have inName : ∀ c ∈ name, (c != '=') = true := by
    intro c member
    rw [bne_iff_ne]
    rintro rfl
    exact plain member
  have front : (name ++ '=' :: value).takeWhile (· != '=') = name :=
    (takeWhile_stop (by decide) name value).trans (List.takeWhile_eq_self_iff.2 inName)
  have back : (name ++ '=' :: value).dropWhile (· != '=') = '=' :: value := by
    rw [dropWhile_stop (by decide), List.dropWhile_eq_nil_iff.2 inName, List.nil_append]
  rw [formPair, front, back, List.drop_one, List.tail_cons]

theorem firstNamed?_here {name value behind : List Char} (plainName : ∀ c ∈ name, c ≠ '&' ∧ c ≠ '=')
    (plainValue : '&' ∉ value) (ends : ∀ c, behind.head? = some c → c = '&') :
    firstNamed? (formDecode name) (name ++ '=' :: value ++ behind) =
      some (formDecode name, formDecode value) := by
  have whole : '&' ∉ name ++ '=' :: value := by
    intro member
    rcases List.mem_append.1 member with inside | inside
    · exact (plainName _ inside).1 rfl
    · rcases List.mem_cons.1 inside with here | inside
      · cases here
      · exact plainValue inside
  have pair : formPairs (name ++ '=' :: value) = [(formDecode name, formDecode value)] := by
    rw [formPairs_piece whole (by simp), formPair_eq fun member => (plainName _ member).2 rfl]
  cases behind with
  | nil => rw [List.append_nil, firstNamed?, pair, List.find?_cons_of_pos (by simp)]
  | cons mark more =>
      obtain rfl := ends mark rfl
      rw [firstNamed?, formPairs_append, pair, List.find?_append,
        List.find?_cons_of_pos (by simp)]
      rfl

end HolderBond.Url
