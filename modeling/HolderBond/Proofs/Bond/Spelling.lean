import HolderBond.Proofs.Bond.Transport
import HolderBond.Proofs.Byte.Base64Spelling

/-!
# How transport forms can be spelled

The first stage of reading a transport form takes blanks from its ends and base64 from what is
left.  It accepts the spellings in either alphabet with optional padding and nothing else, and
spellings of the same bytes differ in nothing but the alphabet, the padding and the blanks.
-/

set_option autoImplicit false

namespace HolderBond.Bond

open Base64Url (Spells StandsFor Lossless ValueOf symbol values room urlAlphabet)

/-! ## Symbols of both alphabets -/

theorem urlSymbol_eq_pad_iff (c : Char) : urlSymbol c = '=' ↔ c = '=' := by
  by_cases plus : c = '+'
  · subst plus
    decide
  · by_cases slash : c = '/'
    · subst slash
      decide
    · simp [urlSymbol, plus, slash]

theorem standsFor_iff (c : Char) (n : Nat) :
    StandsFor c n ↔ n < 64 ∧ urlSymbol c = symbol n := by
  rw [StandsFor, Base64Url.getElem?_standardAlphabet, Base64Url.getElem?_urlAlphabet]
  constructor
  · have standard : ∀ m < 64,
        urlSymbol (if m = 62 then '+' else if m = 63 then '/' else symbol m) = symbol m := by
      decide
    have url : ∀ m < 64, urlSymbol (symbol m) = symbol m := by
      decide
    rintro (⟨small, rfl⟩ | ⟨small, rfl⟩)
    · exact ⟨small, standard n small⟩
    · exact ⟨small, url n small⟩
  · rintro ⟨small, same⟩
    have dash : ∀ m < 64, symbol m = '-' → m = 62 := by
      decide
    have bar : ∀ m < 64, symbol m = '_' → m = 63 := by
      decide
    by_cases plus : c = '+'
    · subst plus
      have last := dash n small same.symm
      exact .inl ⟨small, by simp [last]⟩
    · by_cases slash : c = '/'
      · subst slash
        have last := bar n small same.symm
        exact .inl ⟨small, by simp [last]⟩
      · have kept : urlSymbol c = c := by simp [urlSymbol, plus, slash]
        exact .inr ⟨small, kept.symm.trans same⟩

theorem forall₂_standsFor_iff (symbols : List Char) (ns : List Nat) :
    List.Forall₂ StandsFor symbols ns ↔
      (∀ n ∈ ns, n < 64) ∧ symbols.map urlSymbol = ns.map symbol := by
  induction symbols generalizing ns with
  | nil => cases ns <;> simp
  | cons c symbols ih =>
      cases ns with
      | nil => simp
      | cons n ns =>
          rw [List.forall₂_cons, ih, standsFor_iff, List.forall_mem_cons, List.map_cons,
            List.map_cons, List.cons.injEq]
          exact and_and_and_comm

theorem map_urlSymbol_eq_pads_iff (cs : List Char) (pads : Nat) :
    cs.map urlSymbol = List.replicate pads '=' ↔ cs = List.replicate pads '=' := by
  rw [List.eq_replicate_iff, List.eq_replicate_iff, List.length_map]
  simp [urlSymbol_eq_pad_iff]

theorem spells_trim_iff (text : String) (ns : List Nat) :
    Spells (Text.trim text) ns ↔ (∀ n ∈ ns, n < 64) ∧ Lossless ns ∧
      ∃ pads ≤ room ns.length,
        (normalSymbols text).toList = ns.map symbol ++ List.replicate pads '=' := by
  rw [normalSymbols, String.toList_ofList]
  constructor
  · rintro ⟨⟨symbols, pads, letters, stand, fits⟩, lossless⟩
    obtain ⟨small, same⟩ := (forall₂_standsFor_iff symbols ns).1 stand
    rw [Text.trim, String.toList_ofList] at letters
    refine ⟨small, lossless, pads, fits, ?_⟩
    rw [letters, List.map_append, same, (map_urlSymbol_eq_pads_iff _ pads).2 rfl]
  · rintro ⟨small, lossless, pads, fits, letters⟩
    obtain ⟨symbols, padding, split, same, padded⟩ := List.map_eq_append_iff.1 letters
    refine ⟨⟨symbols, pads, ?_, (forall₂_standsFor_iff symbols ns).2 ⟨small, same⟩, fits⟩, lossless⟩
    rw [Text.trim, String.toList_ofList, split, (map_urlSymbol_eq_pads_iff padding pads).1 padded]

/-! ## What is read -/

theorem decode_normal_iff (text : String) (bytes : List UInt8) :
    Base64Url.decode (normalSymbols text) = .ok bytes ↔ Spells (Text.trim text) (values bytes) := by
  rw [Base64Url.decode_eq_ok_iff, spells_trim_iff]
  have small := Base64Url.values_small bytes
  have lossless := Base64Url.lossless_values bytes
  exact ⟨fun letters => ⟨small, lossless, letters⟩, fun ⟨_, _, letters⟩ => letters⟩

theorem decode_normal_of_spells {text : String} {ns : List Nat}
    (spells : Spells (Text.trim text) ns) :
    ∃ bytes, values bytes = ns ∧ Base64Url.decode (normalSymbols text) = .ok bytes := by
  have small := ((spells_trim_iff text ns).1 spells).1
  obtain ⟨bytes, rfl⟩ := (Base64Url.exists_values_iff small).2 spells.lossless
  exact ⟨bytes, rfl, (decode_normal_iff text bytes).2 spells⟩

theorem decode_normal_eq_ok_iff {text : String} {ns : List Nat}
    (spells : Spells (Text.trim text) ns) (bytes : List UInt8) :
    Base64Url.decode (normalSymbols text) = .ok bytes ↔ ValueOf ns bytes := by
  obtain ⟨written, rfl, read⟩ := decode_normal_of_spells spells
  rw [read]
  constructor
  · rintro ⟨⟩
    exact Base64Url.valueOf_values bytes
  · intro value
    rw [value.unique (Base64Url.valueOf_values written)]

theorem symbol_ne_pad {n : Nat} (small : n < 64) : (symbol n != '=') = true := by
  revert n
  decide

/-- The symbols of a text in the URL alphabet, without blanks around them and without padding. -/
def bareSymbols (text : String) : String :=
  String.ofList ((normalSymbols text).toList.filter (· != '='))

/-- The form that is written is what all spellings have in common. -/
theorem bareSymbols_of_decode {text : String} {bytes : List UInt8}
    (read : Base64Url.decode (normalSymbols text) = .ok bytes) :
    bareSymbols text = Base64Url.encode bytes := by
  obtain ⟨pads, -, letters⟩ := (Base64Url.decode_eq_ok_iff _ bytes).1 read
  have kept : ∀ c ∈ (values bytes).map symbol, (c != '=') = true := by
    intro c member
    obtain ⟨n, known, rfl⟩ := List.mem_map.1 member
    exact symbol_ne_pad (Base64Url.values_small bytes n known)
  rw [bareSymbols, letters, List.filter_append, List.filter_eq_self.2 kept, List.filter_replicate,
    Base64Url.encode, Base64Url.encodeChars_eq]
  simp

theorem encode_eq_iff (bytes others : List UInt8) :
    Base64Url.encode bytes = Base64Url.encode others ↔ bytes = others := by
  constructor
  · intro same
    have read := congrArg Base64Url.decode same
    rw [Base64Url.decode_encode, Base64Url.decode_encode] at read
    exact Except.ok.inj read
  · rintro rfl
    rfl

theorem bareSymbols_of_symbols {text : String}
    (symbols : ∀ c ∈ text.toList, ∃ n < 64, c = symbol n) : bareSymbols text = text := by
  have kept : ∀ c ∈ text.toList, (c != '=') = true := by
    intro c member
    obtain ⟨n, small, rfl⟩ := symbols c member
    exact symbol_ne_pad small
  rw [bareSymbols, normalSymbols_of_symbols symbols, List.filter_eq_self.2 kept,
    String.ofList_toList]

theorem eq_encode_iff (text : String) (bytes : List UInt8) :
    (Base64Url.decode (normalSymbols text) = .ok bytes ∧ ∀ c ∈ text.toList, c ∈ urlAlphabet) ↔
      text = Base64Url.encode bytes := by
  have known : ∀ c, c ∈ urlAlphabet ↔ ∃ n < 64, c = symbol n := by
    intro c
    simp only [List.mem_iff_getElem?, Base64Url.getElem?_urlAlphabet]
  constructor
  · rintro ⟨read, plain⟩
    rw [← bareSymbols_of_decode read,
      bareSymbols_of_symbols fun c member => (known c).1 (plain c member)]
  · rintro rfl
    rw [normalSymbols_encode]
    refine ⟨Base64Url.decode_encode bytes, Base64Url.encode_all (fun n small => ?_) bytes⟩
    exact (known _).2 ⟨n, small, rfl⟩

theorem exists_decode_normal_iff (text : String) :
    (∃ bytes, Base64Url.decode (normalSymbols text) = .ok bytes) ↔
      ∃ ns, Spells (Text.trim text) ns := by
  constructor
  · rintro ⟨bytes, read⟩
    exact ⟨values bytes, (decode_normal_iff text bytes).1 read⟩
  · rintro ⟨ns, spells⟩
    obtain ⟨bytes, -, read⟩ := decode_normal_of_spells spells
    exact ⟨bytes, read⟩

/-- A transport form is refused for its base64 exactly if it spells nothing. -/
theorem decode_eq_decoding_iff (text : String) :
    (∃ cause, decode text = .error (.decoding cause)) ↔ ¬∃ ns, Spells (Text.trim text) ns := by
  rw [← exists_decode_normal_iff]
  cases read : Base64Url.decode (normalSymbols text) with
  | error cause => simp [decode, read]
  | ok bytes =>
      have later : ∀ cause, decode text ≠ .error (.decoding cause) := by
        intro cause refused
        simp only [decode, read] at refused
        cases document : Bond.shape.readBytes bytes with
        | error fault =>
            rw [document] at refused
            cases refused
        | ok bond =>
            rw [document] at refused
            cases refused
      simp [later]

/-- Reading a transport form gives bytes exactly if what is left without blanks at its ends spells
six-bit values, and it is refused for its base64 otherwise.  The bytes are those that the values
stand for; two spellings have the same bytes exactly if they have the same symbols in the URL
alphabet, and the spelling that is written is the only one in that alphabet alone. -/
theorem spelling_exact :
    (∀ text, (∃ bytes, Base64Url.decode (normalSymbols text) = .ok bytes) ↔
      ∃ ns, Spells (Text.trim text) ns) ∧
    (∀ text, (∃ cause, decode text = .error (.decoding cause)) ↔
      ¬∃ ns, Spells (Text.trim text) ns) ∧
    (∀ text ns bytes, Spells (Text.trim text) ns →
      (Base64Url.decode (normalSymbols text) = .ok bytes ↔ ValueOf ns bytes)) ∧
    (∀ text other bytes others, Base64Url.decode (normalSymbols text) = .ok bytes →
      Base64Url.decode (normalSymbols other) = .ok others →
        (bytes = others ↔ bareSymbols text = bareSymbols other)) ∧
    ∀ text bytes, (Base64Url.decode (normalSymbols text) = .ok bytes ∧
        ∀ c ∈ text.toList, c ∈ urlAlphabet) ↔ text = Base64Url.encode bytes := by
  refine ⟨exists_decode_normal_iff, decode_eq_decoding_iff, fun text ns bytes spells => ?_,
    fun text other bytes others read readOther => ?_, eq_encode_iff⟩
  · exact decode_normal_eq_ok_iff spells bytes
  · rw [bareSymbols_of_decode read, bareSymbols_of_decode readOther, encode_eq_iff]

theorem spelling_exact_sample :
    Base64Url.decode (normalSymbols " +_8=\n") = .ok [0xFB, 0xFF] ∧
      Base64Url.decode (normalSymbols "-/8") = .ok [0xFB, 0xFF] ∧
      bareSymbols " +_8=\n" = bareSymbols "-/8" ∧ "-_8" = Base64Url.encode [0xFB, 0xFF] := by
  obtain ⟨-, -, value, same, alone⟩ := spelling_exact
  have lossless : Lossless [62, 63, 60] := ⟨by decide, by decide⟩
  have bits : ValueOf [62, 63, 60] [0xFB, 0xFF] := ⟨by decide, by decide⟩
  have mixed : Spells (Text.trim " +_8=\n") [62, 63, 60] := by
    refine ⟨⟨['+', '_', '8'], 1, by decide, ?_, by decide⟩, lossless⟩
    exact .cons (.inl (by decide)) (.cons (.inr (by decide)) (.cons (.inl (by decide)) .nil))
  have bare : Spells (Text.trim "-/8") [62, 63, 60] := by
    refine ⟨⟨['-', '/', '8'], 0, by decide, ?_, by decide⟩, lossless⟩
    exact .cons (.inr (by decide)) (.cons (.inl (by decide)) (.cons (.inl (by decide)) .nil))
  have read := (value _ _ [0xFB, 0xFF] mixed).2 bits
  have readBare := (value _ _ [0xFB, 0xFF] bare).2 bits
  have written : "-_8" = Base64Url.encode [0xFB, 0xFF] := by decide
  exact ⟨read, readBare, (same _ _ _ _ read readBare).1 rfl,
    (alone "-_8" _).1 ((alone "-_8" _).2 written)⟩

end HolderBond.Bond
