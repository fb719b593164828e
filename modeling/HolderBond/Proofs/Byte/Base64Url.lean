import HolderBond.Byte.Base64Url
import HolderBond.Proofs.Text.Utf8
import HolderBond.Text.Blank

/-!
# Base64 is read back

The symbols that are written for some bytes are read as these bytes, group by group.  What a
symbol is like is decided over the sixty-four values; the rest is arithmetic on six bits.
-/

set_option autoImplicit false

namespace HolderBond.Base64Url

/-! ## Symbols -/

def symbolByte (n : Nat) : UInt8 :=
  UInt8.ofNat (symbol n).toNat

theorem value?_symbolByte {n : Nat} (small : n < 64) : value? (symbolByte n) = some n := by
  revert n
  decide

theorem symbolByte_ne_pad {n : Nat} (small : n < 64) : (symbolByte n == pad) = false := by
  revert n
  decide

theorem symbol_ascii {n : Nat} (small : n < 64) : (symbol n).toNat < 0x80 := by
  revert n
  decide

theorem symbol_not_blank {n : Nat} (small : n < 64) : Text.isBlank (symbol n) = false := by
  revert n
  decide

theorem symbol_not_standard {n : Nat} (small : n < 64) : symbol n ≠ '+' ∧ symbol n ≠ '/' := by
  revert n
  decide

def values : List UInt8 → List Nat
  | [] => []
  | [a] => [a.toNat / 4, a.toNat % 4 * 16]
  | [a, b] => [a.toNat / 4, a.toNat % 4 * 16 + b.toNat / 16, b.toNat % 16 * 4]
  | a :: b :: c :: rest =>
      a.toNat / 4 :: (a.toNat % 4 * 16 + b.toNat / 16) :: (b.toNat % 16 * 4 + c.toNat / 64) ::
        c.toNat % 64 :: values rest

theorem encodeChars_eq (bytes : List UInt8) : encodeChars bytes = (values bytes).map symbol := by
  induction bytes using encodeChars.induct with
  | case1 => rfl
  | case2 a => rfl
  | case3 a b => rfl
  | case4 a b c rest ih => rw [encodeChars, values, ih]; rfl

theorem values_small (bytes : List UInt8) : ∀ n ∈ values bytes, n < 64 := by
  induction bytes using values.induct with
  | case1 => simp [values]
  | case2 a =>
      have boundA := a.toNat_lt
      simp only [values, List.mem_cons, List.not_mem_nil, or_false]
      omega
  | case3 a b =>
      have boundA := a.toNat_lt
      have boundB := b.toNat_lt
      simp only [values, List.mem_cons, List.not_mem_nil, or_false]
      omega
  | case4 a b c rest ih =>
      have boundA := a.toNat_lt
      have boundB := b.toNat_lt
      have boundC := c.toNat_lt
      intro n member
      simp only [values, List.mem_cons] at member
      rcases member with same | same | same | same | later
      · omega
      · omega
      · omega
      · omega
      · exact ih n later

theorem eq_nil_of_values {bytes : List UInt8} (none : values bytes = []) : bytes = [] := by
  cases bytes using values.fun_cases with
  | case1 => rfl
  | case2 a => simp [values] at none
  | case3 a b => simp [values] at none
  | case4 a b c rest => simp [values] at none

def symbolBytes (bytes : List UInt8) : List UInt8 :=
  (values bytes).map symbolByte

theorem utf8_encode (bytes : List UInt8) : Text.utf8 (encode bytes) = symbolBytes bytes := by
  rw [Text.utf8, encode, String.toList_ofList, encodeChars_eq, Text.utf8Chars_ascii]
  · rw [List.map_map]
    rfl
  · intro c member
    obtain ⟨n, small, rfl⟩ := List.mem_map.1 member
    exact symbol_ascii (values_small bytes n small)

/-- Everything that holds of all symbols holds of the characters written. -/
theorem encode_all {property : Char → Prop} (holds : ∀ n, n < 64 → property (symbol n))
    (bytes : List UInt8) : ∀ c ∈ (encode bytes).toList, property c := by
  intro c member
  rw [encode, String.toList_ofList, encodeChars_eq] at member
  obtain ⟨n, small, rfl⟩ := List.mem_map.1 member
  exact holds n (values_small bytes n small)

/-! ## Groups -/

theorem checkGroup_symbols (start : Nat) (ns : List Nat) (small : ∀ n ∈ ns, n < 64) (index : Nat) :
    checkGroup start index none (ns.map symbolByte) = .ok () := by
  induction ns generalizing index with
  | nil => rfl
  | cons n ns ih =>
      have head := small n (List.mem_cons_self ..)
      have tail := fun m member => small m (List.mem_cons_of_mem _ member)
      simp [checkGroup, symbolByte_ne_pad head, value?_symbolByte head, ih tail]

theorem takeWhile_symbols (ns : List Nat) (small : ∀ n ∈ ns, n < 64) :
    (ns.map symbolByte).takeWhile (· != pad) = ns.map symbolByte := by
  induction ns with
  | nil => rfl
  | cons n ns ih =>
      have head := symbolByte_ne_pad (small n (List.mem_cons_self ..))
      have tail := fun m member => small m (List.mem_cons_of_mem _ member)
      rw [List.map_cons, List.takeWhile_cons, ih tail]
      simp [bne, head]

theorem filterMap_symbols (ns : List Nat) (small : ∀ n ∈ ns, n < 64) :
    (ns.map symbolByte).filterMap value? = ns := by
  induction ns with
  | nil => rfl
  | cons n ns ih =>
      have tail := fun m member => small m (List.mem_cons_of_mem _ member)
      rw [List.map_cons, List.filterMap_cons, value?_symbolByte (small n (List.mem_cons_self ..)),
        ih tail]

theorem ofNat_eq {n : Nat} {a : UInt8} (same : n = a.toNat) : UInt8.ofNat n = a := by
  rw [same, UInt8.ofNat_toNat]

def groupBytes : List Nat → List UInt8
  | [a, b] => [UInt8.ofNat (a * 4 + b / 16)]
  | [a, b, c] => [UInt8.ofNat (a * 4 + b / 16), UInt8.ofNat (b % 16 * 16 + c / 4)]
  | [a, b, c, d] => join a b c d
  | _ => []

theorem decodeGroup_pair (start : Nat) {a b : Nat} (small : ∀ n ∈ [a, b], n < 64)
    (unused : b % 16 = 0) :
    decodeGroup start ([a, b].map symbolByte) = .ok (groupBytes [a, b]) := by
  rw [decodeGroup, checkGroup_symbols start _ small, takeWhile_symbols _ small]
  simp only [bind, Except.bind, filterMap_symbols _ small]
  simp [groupBytes, unused]

theorem decodeGroup_triple (start : Nat) {a b c : Nat} (small : ∀ n ∈ [a, b, c], n < 64)
    (unused : c % 4 = 0) :
    decodeGroup start ([a, b, c].map symbolByte) = .ok (groupBytes [a, b, c]) := by
  rw [decodeGroup, checkGroup_symbols start _ small, takeWhile_symbols _ small]
  simp only [bind, Except.bind, filterMap_symbols _ small]
  simp [groupBytes, unused]

theorem decodeGroup_quad (start : Nat) {a b c d : Nat} (small : ∀ n ∈ [a, b, c, d], n < 64) :
    decodeGroup start ([a, b, c, d].map symbolByte) = .ok (groupBytes [a, b, c, d]) := by
  rw [decodeGroup, checkGroup_symbols start _ small, takeWhile_symbols _ small]
  simp only [bind, Except.bind, filterMap_symbols _ small]
  simp [groupBytes]

/-- The three bytes of a full group come back from its four values. -/
theorem join_values (a b c : UInt8) :
    join (a.toNat / 4) (a.toNat % 4 * 16 + b.toNat / 16) (b.toNat % 16 * 4 + c.toNat / 64)
      (c.toNat % 64) = [a, b, c] := by
  have boundA := a.toNat_lt
  have boundB := b.toNat_lt
  have boundC := c.toNat_lt
  rw [join, ofNat_eq (a := a) (by omega), ofNat_eq (a := b) (by omega),
    ofNat_eq (a := c) (by omega)]

theorem decodeGroup_symbolBytes (start : Nat) (bytes : List UInt8) (short : bytes.length ≤ 3) :
    decodeGroup start (symbolBytes bytes) = .ok bytes := by
  have small := values_small bytes
  match bytes, short with
  | [], _ => rfl
  | [a], _ =>
      have bound := a.toNat_lt
      rw [symbolBytes, values, decodeGroup_pair start small (by omega), groupBytes,
        ofNat_eq (a := a) (by omega)]
  | [a, b], _ =>
      have boundA := a.toNat_lt
      have boundB := b.toNat_lt
      rw [symbolBytes, values, decodeGroup_triple start small (by omega), groupBytes,
        ofNat_eq (a := a) (by omega), ofNat_eq (a := b) (by omega)]
  | [a, b, c], _ =>
      rw [symbolBytes, values, values, decodeGroup_quad start small, groupBytes, join_values]

/-! ## Padding -/

/-- How much padding the last group has room for behind so many symbols. -/
def room (symbols : Nat) : Nat :=
  if symbols % 4 = 0 then 0 else 4 - symbols % 4

theorem checkGroup_pads (start firstPad pads : Nat) {index : Nat} (second : 2 ≤ index) :
    checkGroup start index (some firstPad) (List.replicate pads pad) = .ok () := by
  induction pads generalizing index with
  | zero => rfl
  | succ pads ih =>
      have rest := ih (Nat.le_succ_of_le second)
      simpa [List.replicate_succ, checkGroup, Nat.not_lt.2 second] using rest

theorem checkGroup_padded (start : Nat) {ns : List Nat} (small : ∀ n ∈ ns, n < 64)
    {index pads : Nat} (fits : pads = 0 ∨ 2 ≤ index + ns.length) :
    checkGroup start index none (ns.map symbolByte ++ List.replicate pads pad) = .ok () := by
  induction ns generalizing index with
  | nil =>
      cases pads with
      | zero => rfl
      | succ pads =>
          have second : 2 ≤ index := by simpa using fits
          have rest := checkGroup_pads start index pads (Nat.le_succ_of_le second)
          simpa [List.replicate_succ, checkGroup, Nat.not_lt.2 second] using rest
  | cons n ns ih =>
      obtain ⟨head, tail⟩ := List.forall_mem_cons.1 small
      have later : pads = 0 ∨ 2 ≤ index + 1 + ns.length := by
        simpa [Nat.add_assoc, Nat.add_comm 1] using fits
      have rest := ih tail later
      simpa [checkGroup, symbolByte_ne_pad head, value?_symbolByte head] using rest

theorem decodeGroup_padded (start : Nat) {ns : List Nat} (small : ∀ n ∈ ns, n < 64) {pads : Nat}
    (fits : pads = 0 ∨ 2 ≤ ns.length) :
    decodeGroup start (ns.map symbolByte ++ List.replicate pads pad) =
      decodeGroup start (ns.map symbolByte) := by
  have symbols : ∀ b ∈ ns.map symbolByte, (b != pad) = true := by
    intro b member
    obtain ⟨n, known, rfl⟩ := List.mem_map.1 member
    simp [bne, symbolByte_ne_pad (small n known)]
  have padding : (List.replicate pads pad).takeWhile (· != pad) = [] := by
    cases pads <;> rfl
  rw [decodeGroup, decodeGroup, checkGroup_padded start small (by simpa using fits),
    checkGroup_symbols start _ small, List.takeWhile_append_of_pos symbols, padding,
    List.append_nil, takeWhile_symbols _ small]

theorem room_quad (symbols : Nat) : room (symbols + 4) = room symbols := by
  simp [room]

theorem length_add_room_le {bytes : List UInt8} (short : bytes.length ≤ 3) :
    (values bytes).length + room (values bytes).length ≤ 4 := by
  match bytes, short with
  | [], _ | [_], _ | [_, _], _ | [_, _, _], _ => simp [values, room]

/-! ## Whole texts -/

theorem decodeFrom_quad (start : Nat) (a b c : UInt8) (last : UInt8) (rest : List UInt8) :
    decodeFrom start (((values [a, b, c]).map symbolByte) ++ last :: rest) = (do
      let bytes ← decodeFrom (start + 4) (last :: rest)
      return [a, b, c] ++ bytes) := by
  have small := values_small [a, b, c]
  simp only [values, List.mem_cons, List.not_mem_nil, or_false, forall_eq_or_imp,
    forall_eq] at small
  obtain ⟨first, second, third, fourth⟩ := small
  simp only [values, List.map_cons, List.map_nil, List.cons_append, List.nil_append, decodeFrom,
    value?_symbolByte first, value?_symbolByte second, value?_symbolByte third,
    value?_symbolByte fourth, join_values]

theorem decodeFrom_short (start : Nat) {group : List UInt8} (short : group.length ≤ 4) :
    decodeFrom start group = decodeGroup start group := by
  match group, short with
  | [], _ | [_], _ | [_, _], _ | [_, _, _], _ | [_, _, _, _], _ => rfl

/-- The last group is read back with any padding that it has room for. -/
theorem decodeFrom_last (start : Nat) (bytes : List UInt8) (short : bytes.length ≤ 3) {pads : Nat}
    (fits : pads ≤ room (values bytes).length) :
    decodeFrom start (symbolBytes bytes ++ List.replicate pads pad) = .ok bytes := by
  have space := length_add_room_le short
  have placed : pads = 0 ∨ 2 ≤ (values bytes).length := by
    match bytes, short with
    | [], _ => exact .inl (Nat.le_zero.1 fits)
    | [_], _ | [_, _], _ | [_, _, _], _ => simp [values]
  rw [decodeFrom_short start (by simp [symbolBytes]; omega), symbolBytes,
    decodeGroup_padded start (values_small bytes) placed]
  exact decodeGroup_symbolBytes start bytes short

/-- Symbols are read back with any padding that there is room for. -/
theorem decodeFrom_padded (start : Nat) (bytes : List UInt8) {pads : Nat}
    (fits : pads ≤ room (values bytes).length) :
    decodeFrom start (symbolBytes bytes ++ List.replicate pads pad) = .ok bytes := by
  induction bytes using values.induct generalizing start with
  | case1 => exact decodeFrom_last start [] (by decide) fits
  | case2 a => exact decodeFrom_last start [a] (by simp) fits
  | case3 a b => exact decodeFrom_last start [a, b] (by simp) fits
  | case4 a b c rest ih =>
      have fitsRest : pads ≤ room (values rest).length := by
        rw [← room_quad]
        exact fits
      have split : symbolBytes (a :: b :: c :: rest) ++ List.replicate pads pad =
          (values [a, b, c]).map symbolByte ++ (symbolBytes rest ++ List.replicate pads pad) := rfl
      cases more : symbolBytes rest ++ List.replicate pads pad with
      | nil =>
          have none : rest = [] := eq_nil_of_values
            (List.map_eq_nil_iff.1 (List.append_eq_nil_iff.1 more).1)
          subst none
          exact decodeFrom_last start [a, b, c] (by simp) fits
      | cons last others =>
          rw [split, more, decodeFrom_quad, ← more, ih (start + 4) fitsRest]
          rfl

theorem strayLast?_of_known {bytes : List UInt8}
    (known : ∀ b ∈ bytes, b = pad ∨ ∃ n, value? b = some n) : strayLast? bytes = none := by
  unfold strayLast?
  split
  · refine Option.filter_eq_none_iff.2 fun b last => ?_
    rcases known b (List.mem_of_getLast? last) with rfl | ⟨n, symbol⟩
    · simp
    · simp [symbol]
  · rfl

theorem strayLast?_padded (bytes : List UInt8) (pads : Nat) :
    strayLast? (symbolBytes bytes ++ List.replicate pads pad) = none := by
  refine strayLast?_of_known fun b member => ?_
  rcases List.mem_append.1 member with symbol | padding
  · obtain ⟨n, known, rfl⟩ := List.mem_map.1 symbol
    exact .inr ⟨n, value?_symbolByte (values_small bytes n known)⟩
  · exact .inl (List.eq_of_mem_replicate padding)

theorem decode_encode (bytes : List UInt8) : decode (encode bytes) = .ok bytes := by
  have noStray := strayLast?_padded bytes 0
  have back := decodeFrom_padded 0 bytes (Nat.zero_le _)
  rw [List.replicate_zero, List.append_nil] at noStray back
  rw [decode, utf8_encode]
  simp only [noStray]
  exact back

end HolderBond.Base64Url
