import HolderBond.Proofs.Byte.Base64Url
import Mathlib.Data.Nat.Digits.Defs

/-!
# Which texts are base64

A text is read exactly if it consists of the symbols that are written for some bytes and of no
more padding than the last group has room for.  Six-bit values are written for some bytes
exactly if they leave no value alone in the last group and no bit set behind the last byte, and
the bytes are then the same number as the values, in another base.
-/

set_option autoImplicit false

namespace HolderBond.Base64Url

/-! ## Values that are written -/

/-- No value stands alone in the last group, and the bits behind the last byte are zero. -/
structure Lossless (ns : List Nat) : Prop where
  grouped : ns.length % 4 ≠ 1
  unused : ∀ last ∈ ns.getLast?, last % 2 ^ (6 * ns.length % 8) = 0

theorem lossless_quad (w x y z : Nat) (ns : List Nat) :
    Lossless (w :: x :: y :: z :: ns) ↔ Lossless ns := by
  have count : (w :: x :: y :: z :: ns).length % 4 = ns.length % 4 := Nat.add_mod_right _ 4
  have bits : 6 * (w :: x :: y :: z :: ns).length % 8 = 6 * ns.length % 8 := by
    simp only [List.length_cons]
    omega
  constructor
  · intro lossless
    refine ⟨count ▸ lossless.grouped, fun last found => ?_⟩
    have unused := lossless.unused last
    rw [bits] at unused
    -- The last value is the same one, unless nothing comes after the group.
    refine unused ?_
    cases ns with
    | nil => cases found
    | cons n ns => simpa [List.getLast?_cons_cons] using found
  · intro lossless
    refine ⟨count.symm ▸ lossless.grouped, fun last found => ?_⟩
    rw [bits]
    cases ns with
    | nil => exact Nat.mod_one last
    | cons n ns => exact lossless.unused last (by simpa [List.getLast?_cons_cons] using found)

theorem lossless_values (bytes : List UInt8) : Lossless (values bytes) := by
  induction bytes using values.induct with
  | case1 => exact ⟨by decide, by simp [values]⟩
  | case2 a => exact ⟨by simp [values], by simp [values]⟩
  | case3 a b => exact ⟨by simp [values], by simp [values]⟩
  | case4 a b c rest ih => exact (lossless_quad _ _ _ _ _).2 ih

def bytesOf : List Nat → List UInt8
  | w :: x :: y :: z :: rest => join w x y z ++ bytesOf rest
  | ns => groupBytes ns

theorem values_join {w x y z : Nat} (small : ∀ n ∈ [w, x, y, z], n < 64) (bytes : List UInt8) :
    values (join w x y z ++ bytes) = w :: x :: y :: z :: values bytes := by
  simp only [List.forall_mem_cons, List.not_mem_nil] at small
  obtain ⟨smallW, smallX, smallY, smallZ, -⟩ := small
  have first : (w * 4 + x / 16) / 4 = w := by omega
  have second : (w * 4 + x / 16) % 4 * 16 + (x % 16 * 16 + y / 4) / 16 = x := by omega
  have third : (x % 16 * 16 + y / 4) % 16 * 4 + (y % 4 * 64 + z) / 64 = y := by omega
  have fourth : (y % 4 * 64 + z) % 64 = z := by omega
  rw [join, List.cons_append, List.cons_append, List.cons_append, List.nil_append, values,
    Text.toNat_byte (by omega), Text.toNat_byte (by omega), Text.toNat_byte (by omega), first,
    second, third, fourth]

theorem values_groupBytes {ns : List Nat} (small : ∀ n ∈ ns, n < 64) (lossless : Lossless ns)
    (short : ns.length ≤ 4) : values (groupBytes ns) = ns := by
  match ns, short with
  | [], _ => rfl
  | [a], _ => exact absurd rfl lossless.grouped
  | [a, b], _ =>
      have unused : b % 16 = 0 := by simpa using lossless.unused b rfl
      simp only [List.forall_mem_cons, List.not_mem_nil] at small
      have first : (a * 4 + b / 16) / 4 = a := by omega
      have second : (a * 4 + b / 16) % 4 * 16 = b := by omega
      rw [groupBytes, values, Text.toNat_byte (by omega), first, second]
  | [a, b, c], _ =>
      have unused : c % 4 = 0 := by simpa using lossless.unused c rfl
      simp only [List.forall_mem_cons, List.not_mem_nil] at small
      have first : (a * 4 + b / 16) / 4 = a := by omega
      have second : (a * 4 + b / 16) % 4 * 16 + (b % 16 * 16 + c / 4) / 16 = b := by omega
      have third : (b % 16 * 16 + c / 4) % 16 * 4 = c := by omega
      rw [groupBytes, values, Text.toNat_byte (by omega), Text.toNat_byte (by omega), first,
        second, third]
  | [a, b, c, d], _ => exact values_join small []

theorem short_or_long {α : Type} (xs : List α) :
    xs.length ≤ 4 ∨ ∃ a b c d e rest, xs = a :: b :: c :: d :: e :: rest := by
  match xs with
  | [] | [_] | [_, _] | [_, _, _] | [_, _, _, _] => exact .inl (by simp)
  | a :: b :: c :: d :: e :: rest => exact .inr ⟨a, b, c, d, e, rest, rfl⟩

theorem values_bytesOf {ns : List Nat} (small : ∀ n ∈ ns, n < 64) (lossless : Lossless ns) :
    values (bytesOf ns) = ns := by
  induction ns using bytesOf.induct with
  | case1 w x y z rest ih =>
      have front : ∀ n ∈ [w, x, y, z], n < 64 := fun n member =>
        small n (List.mem_append_left rest member)
      have back : ∀ n ∈ rest, n < 64 := fun n member =>
        small n (List.mem_append_right [w, x, y, z] member)
      rw [bytesOf, values_join front, ih back ((lossless_quad w x y z rest).1 lossless)]
  | case2 ns notFull =>
      have short : ns.length ≤ 4 := by
        refine (short_or_long ns).resolve_right ?_
        rintro ⟨w, x, y, z, n, rest, full⟩
        exact notFull w x y z (n :: rest) full
      rw [bytesOf.eq_2 ns notFull]
      exact values_groupBytes small lossless short

/-- Some values are written for some bytes exactly if nothing of them is lost in the bytes. -/
theorem exists_values_iff {ns : List Nat} (small : ∀ n ∈ ns, n < 64) :
    (∃ bytes, values bytes = ns) ↔ Lossless ns := by
  constructor
  · rintro ⟨bytes, rfl⟩
    exact lossless_values bytes
  · intro lossless
    exact ⟨bytesOf ns, values_bytesOf small lossless⟩

/-! ## The number that is written -/

def number (base : Nat) (digits : List Nat) : Nat :=
  digits.foldl (fun n digit => n * base + digit) 0

theorem number_eq_ofDigits (base : Nat) (digits : List Nat) :
    number base digits = Nat.ofDigits base digits.reverse := by
  rw [Nat.ofDigits_eq_foldr, List.foldr_reverse, number]
  congr 1
  funext n digit
  rw [Nat.mul_comm, Nat.add_comm]
  rfl

/-- The bytes have the bits of the values, but for zeros that are left at the end. -/
structure ValueOf (ns : List Nat) (bytes : List UInt8) : Prop where
  length : bytes.length = 6 * ns.length / 8
  bits : number 64 ns = number 256 (bytes.map (·.toNat)) * 2 ^ (6 * ns.length % 8)

theorem foldl_values (bytes : List UInt8) (front : Nat) :
    (values bytes).foldl (fun n digit => n * 64 + digit) front =
      (bytes.map (·.toNat)).foldl (fun n digit => n * 256 + digit) front *
        2 ^ (6 * (values bytes).length % 8) := by
  induction bytes using values.induct generalizing front with
  | case1 => simp [values]
  | case2 a | case3 a b =>
      simp only [values, List.foldl_cons, List.foldl_nil, List.map_cons, List.map_nil,
        List.length_cons, List.length_nil, Nat.reduceAdd, Nat.reduceMul, Nat.reduceMod,
        Nat.reducePow]
      omega
  | case4 a b c rest ih =>
      have group : (((front * 64 + a.toNat / 4) * 64 + (a.toNat % 4 * 16 + b.toNat / 16)) * 64 +
          (b.toNat % 16 * 4 + c.toNat / 64)) * 64 + c.toNat % 64 =
          ((front * 256 + a.toNat) * 256 + b.toNat) * 256 + c.toNat := by
        omega
      have bits : 6 * (values (a :: b :: c :: rest)).length % 8 = 6 * (values rest).length % 8 := by
        simp only [values, List.length_cons]
        omega
      rw [bits]
      simp only [values, List.map_cons, List.foldl_cons, group, ih]

theorem valueOf_values (bytes : List UInt8) : ValueOf (values bytes) bytes where
  length := by
    induction bytes using values.induct with
    | case1 => rfl
    | case2 a => simp [values]
    | case3 a b => simp [values]
    | case4 a b c rest ih =>
        simp only [values, List.length_cons]
        omega
  bits := foldl_values bytes 0

theorem ValueOf.unique {ns : List Nat} {bytes others : List UInt8} (first : ValueOf ns bytes)
    (second : ValueOf ns others) : bytes = others := by
  have small : ∀ list : List UInt8, ∀ digit ∈ (list.map (·.toNat)).reverse, digit < 256 := by
    intro list digit member
    obtain ⟨b, -, rfl⟩ := List.mem_map.1 (List.mem_reverse.1 member)
    exact b.toNat_lt
  have positive : 0 < 2 ^ (6 * ns.length % 8) := Nat.two_pow_pos _
  have same := Nat.eq_of_mul_eq_mul_right positive (first.bits.symm.trans second.bits)
  rw [number_eq_ofDigits, number_eq_ofDigits] at same
  have lengths : (bytes.map (·.toNat)).reverse.length = (others.map (·.toNat)).reverse.length := by
    simp [first.length, second.length]
  have digits := Nat.ofDigits_inj_of_len_eq (by decide) lengths (small bytes) (small others) same
  exact (List.map_inj_right fun _ _ => UInt8.toNat_inj.1).1 (List.reverse_inj.1 digits)

/-! ## Bytes that are read -/

theorem toNat_symbol {n : Nat} (small : n < 64) :
    (symbol n).toNat = if n < 26 then n + 65 else if n < 52 then n + 71
      else if n < 62 then n - 4 else if n = 62 then 45 else 95 := by
  revert n
  decide

theorem eq_symbolByte {b : UInt8} {n : Nat} (found : value? b = some n) :
    n < 64 ∧ b = symbolByte n := by
  simp only [value?, Bool.and_eq_true, decide_eq_true_eq, beq_iff_eq] at found
  have small : n < 64 := by
    split_ifs at found <;> cases found <;> omega
  have number : (symbol n).toNat = b.toNat := by
    rw [toNat_symbol small]
    split_ifs at found <;> cases found <;> split_ifs <;> omega
  exact ⟨small, (ofNat_eq number).symm⟩

theorem eq_replicate_of_checkGroup {start index firstPad : Nat} {group : List UInt8}
    (checked : checkGroup start index (some firstPad) group = .ok ()) :
    group = List.replicate group.length pad := by
  induction group generalizing index with
  | nil => rfl
  | cons b rest ih =>
      rw [checkGroup] at checked
      split at checked
      · next isPad =>
          split at checked
          · cases checked
          · rw [List.length_cons, List.replicate_succ, ← ih checked, eq_of_beq isPad]
      · cases checked

theorem exists_of_checkGroup {start index : Nat} {group : List UInt8}
    (checked : checkGroup start index none group = .ok ()) :
    ∃ (ns : List Nat) (pads : Nat), (∀ n ∈ ns, n < 64) ∧
      group = ns.map symbolByte ++ List.replicate pads pad ∧
        (pads = 0 ∨ 2 ≤ index + ns.length) := by
  induction group generalizing index with
  | nil => exact ⟨[], 0, by simp, rfl, .inl rfl⟩
  | cons b rest ih =>
      rw [checkGroup] at checked
      split at checked
      · next isPad =>
          split at checked
          · cases checked
          · next second =>
              refine ⟨[], rest.length + 1, by simp, ?_, .inr (Nat.le_of_not_lt second)⟩
              rw [eq_of_beq isPad]
              exact congrArg _ (eq_replicate_of_checkGroup checked)
      · split at checked
        · cases checked
        · next n found =>
            obtain ⟨small, rfl⟩ := eq_symbolByte found
            obtain ⟨ns, pads, smalls, rfl, placed⟩ := ih checked
            refine ⟨n :: ns, pads, List.forall_mem_cons.2 ⟨small, smalls⟩, rfl, ?_⟩
            rw [List.length_cons]
            omega

theorem decodeGroup_lossless (start : Nat) {ns : List Nat} (small : ∀ n ∈ ns, n < 64)
    (short : ns.length ≤ 4) (lossless : Lossless ns) :
    decodeGroup start (ns.map symbolByte) = .ok (groupBytes ns) := by
  match ns, short with
  | [], _ => rfl
  | [a], _ => exact absurd rfl lossless.grouped
  | [a, b], _ => exact decodeGroup_pair start small (by simpa using lossless.unused b rfl)
  | [a, b, c], _ => exact decodeGroup_triple start small (by simpa using lossless.unused c rfl)
  | [a, b, c, d], _ => exact decodeGroup_quad start small

theorem lossless_of_decodeGroup {start : Nat} {ns : List Nat} {out : List UInt8}
    (small : ∀ n ∈ ns, n < 64) (short : ns.length ≤ 4)
    (read : decodeGroup start (ns.map symbolByte) = .ok out) : Lossless ns := by
  rw [decodeGroup, checkGroup_symbols start _ small, takeWhile_symbols _ small] at read
  simp only [bind, Except.bind, filterMap_symbols _ small] at read
  rcases ns with _ | ⟨a, _ | ⟨b, _ | ⟨c, _ | ⟨d, _ | ⟨e, ns⟩⟩⟩⟩⟩
  · exact lossless_values []
  · cases read
  · have unused : b % 16 = 0 := by
      by_contra used
      simp [used] at read
    exact ⟨by simp, by simpa using unused⟩
  · have unused : c % 4 = 0 := by
      by_contra used
      simp [used] at read
    exact ⟨by simp, by simpa using unused⟩
  · exact (lossless_quad a b c d []).2 (lossless_values [])
  · simp only [List.length_cons] at short
    omega

theorem of_decodeGroup {start : Nat} {group out : List UInt8} (short : group.length ≤ 4)
    (read : decodeGroup start group = .ok out) :
    ∃ pads ≤ room (values out).length,
      group = symbolBytes out ++ List.replicate pads pad := by
  cases checked : checkGroup start 0 none group with
  | error cause =>
      rw [decodeGroup, checked] at read
      cases read
  | ok _ =>
      obtain ⟨ns, pads, small, rfl, placed⟩ := exists_of_checkGroup checked
      rw [Nat.zero_add] at placed
      rw [List.length_append, List.length_map, List.length_replicate] at short
      have few : ns.length ≤ 4 := by omega
      rw [decodeGroup_padded start small placed] at read
      have lossless := lossless_of_decodeGroup small few read
      have written := values_groupBytes small lossless few
      rw [decodeGroup_lossless start small few lossless] at read
      cases read
      refine ⟨pads, ?_, by rw [symbolBytes, written]⟩
      rw [written, room]
      split <;> omega

theorem of_decodeFrom {start : Nat} {bytes out : List UInt8}
    (read : decodeFrom start bytes = .ok out) :
    ∃ pads ≤ room (values out).length,
      bytes = symbolBytes out ++ List.replicate pads pad := by
  -- By the groups as they are read: the first four cases are refused, the fifth goes on.
  induction start, bytes using decodeFrom.induct generalizing out with
  | case1 start a b c d e rest foreign => simp [decodeFrom, foreign] at read
  | case2 start a b c d e rest w first foreign => simp [decodeFrom, first, foreign] at read
  | case3 start a b c d e rest w x first second foreign =>
      simp [decodeFrom, first, second, foreign] at read
  | case4 start a b c d e rest w x y first second third foreign =>
      simp [decodeFrom, first, second, third, foreign] at read
  | case5 start a b c d e rest w x y z first second third fourth ih =>
      obtain ⟨smallW, rfl⟩ := eq_symbolByte first
      obtain ⟨smallX, rfl⟩ := eq_symbolByte second
      obtain ⟨smallY, rfl⟩ := eq_symbolByte third
      obtain ⟨smallZ, rfl⟩ := eq_symbolByte fourth
      have small : ∀ n ∈ [w, x, y, z], n < 64 := by simp [smallW, smallX, smallY, smallZ]
      simp only [decodeFrom, first, second, third, fourth] at read
      cases later : decodeFrom (start + 4) (e :: rest) with
      | error cause =>
          rw [later] at read
          cases read
      | ok bytes =>
          rw [later] at read
          cases read
          obtain ⟨pads, fits, same⟩ := ih later
          refine ⟨pads, ?_, ?_⟩
          · rw [values_join small]
            exact (room_quad _).symm ▸ fits
          · rw [symbolBytes, values_join small, same]
            rfl
  | case6 start group notLong =>
      have short : group.length ≤ 4 := by
        refine (short_or_long group).resolve_right ?_
        rintro ⟨a, b, c, d, e, rest, long⟩
        exact notLong a b c d e rest long
      rw [decodeFrom_short start short] at read
      exact of_decodeGroup short read

/-! ## Texts that are read -/

theorem utf8_padded (bytes : List UInt8) (pads : Nat) :
    Text.utf8 (String.ofList ((values bytes).map symbol ++ List.replicate pads '=')) =
      symbolBytes bytes ++ List.replicate pads pad := by
  rw [Text.utf8, String.toList_ofList, Text.utf8Chars_ascii, List.map_append, List.map_map,
    List.map_replicate]
  · rfl
  · intro c member
    rcases List.mem_append.1 member with known | padding
    · obtain ⟨n, small, rfl⟩ := List.mem_map.1 known
      exact symbol_ascii (values_small bytes n small)
    · rw [List.eq_of_mem_replicate padding]
      decide

/-- A text is read as some bytes exactly if it has their symbols, padded at most as far as the
last group goes. -/
theorem decode_eq_ok_iff (text : String) (bytes : List UInt8) :
    decode text = .ok bytes ↔ ∃ pads ≤ room (values bytes).length,
      text.toList = (values bytes).map symbol ++ List.replicate pads '=' := by
  constructor
  · intro read
    cases stray : strayLast? (Text.utf8 text) with
    | some b =>
        simp only [decode, stray] at read
        cases read
    | none =>
        simp only [decode, stray] at read
        obtain ⟨pads, fits, same⟩ := of_decodeFrom read
        rw [← utf8_padded] at same
        refine ⟨pads, fits, ?_⟩
        rw [Text.utf8_injective same, String.toList_ofList]
  · rintro ⟨pads, fits, letters⟩
    have whole : Text.utf8 text = symbolBytes bytes ++ List.replicate pads pad := by
      rw [← utf8_padded, ← letters, String.ofList_toList]
    rw [decode, whole]
    simp only [strayLast?_padded]
    exact decodeFrom_padded 0 bytes fits

/-! ## Spellings -/

def standardAlphabet : List Char :=
  "ABCDEFGHIJKLMNOPQRSTUVWXYZabcdefghijklmnopqrstuvwxyz0123456789+/".toList

def urlAlphabet : List Char :=
  "ABCDEFGHIJKLMNOPQRSTUVWXYZabcdefghijklmnopqrstuvwxyz0123456789-_".toList

def StandsFor (c : Char) (n : Nat) : Prop :=
  standardAlphabet[n]? = some c ∨ urlAlphabet[n]? = some c

/-- A text that spells six-bit values: a symbol from either alphabet for each of them, and at
most the padding that the last group has room for, if nothing is lost of the values in bytes. -/
structure Spells (text : String) (ns : List Nat) : Prop where
  letters : ∃ symbols pads, text.toList = symbols ++ List.replicate pads '=' ∧
    List.Forall₂ StandsFor symbols ns ∧ pads ≤ room ns.length
  lossless : Lossless ns

theorem getElem?_alphabet {alphabet : List Char} (letter : Nat → Char)
    (complete : alphabet.length = 64) (all : ∀ m < 64, alphabet[m]? = some (letter m)) (n : Nat)
    (c : Char) : alphabet[n]? = some c ↔ n < 64 ∧ c = letter n := by
  by_cases small : n < 64
  · simp [all n small, small, eq_comm]
  · have none : alphabet[n]? = none :=
      List.getElem?_eq_none (complete ▸ Nat.le_of_not_lt small)
    simp [none, small]

theorem getElem?_urlAlphabet (n : Nat) (c : Char) :
    urlAlphabet[n]? = some c ↔ n < 64 ∧ c = symbol n :=
  getElem?_alphabet symbol rfl (by decide) n c

theorem getElem?_standardAlphabet (n : Nat) (c : Char) :
    standardAlphabet[n]? = some c ↔
      n < 64 ∧ c = if n = 62 then '+' else if n = 63 then '/' else symbol n :=
  getElem?_alphabet (fun m => if m = 62 then '+' else if m = 63 then '/' else symbol m) rfl
    (by decide) n c

end HolderBond.Base64Url
