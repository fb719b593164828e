import HolderBond.Proofs.Json.Skipping
import HolderBond.Proofs.Json.Written

/-!
# What is read was written

The readers accept nothing but what the grammar of texts allows: whatever a reader takes from the
characters of a text is one way to write what it gives.  With the other direction, a text is read
as a tree exactly when it is a document that writes the tree within the levels there may be.
-/

set_option autoImplicit false

namespace HolderBond.Json

open HolderBond.Text (Glyph)
open Scan

/-- A reader that takes from characters nothing but a way to write what it gives. -/
def Takes {α : Type} (read : Scan α) (written : α → List Char → Prop) : Prop :=
  ∀ cs a rest, read.on (letters cs) = some (a, rest) →
    ∃ text more, cs = text ++ more ∧ rest = letters more ∧ written a text

/-! ## Characters -/

theorem letters_eq_cons {cs : List Char} {g : Glyph} {rest : Input}
    (same : letters cs = g :: rest) :
    ∃ c more, cs = c :: more ∧ g = .char c ∧ rest = letters more := by
  cases cs with
  | nil => cases same
  | cons c more =>
      cases same
      exact ⟨c, more, rfl, rfl, rfl⟩

theorem letters_eq_append {cs word : List Char} {rest : Input}
    (same : letters cs = letters word ++ rest) :
    ∃ more, cs = word ++ more ∧ rest = letters more := by
  induction word generalizing cs with
  | nil => exact ⟨cs, rfl, same.symm⟩
  | cons c word ih =>
      obtain ⟨d, more, rfl, here, later⟩ := letters_eq_cons same
      cases here
      obtain ⟨others, rfl, left⟩ := ih later.symm
      exact ⟨others, rfl, left⟩

theorem bare_letters (cs : List Char) :
    ∃ blank more, cs = blank ++ more ∧ Blank blank ∧ bare (letters cs) = letters more := by
  induction cs with
  | nil => exact ⟨[], [], rfl, blank_nil, rfl⟩
  | cons c cs ih =>
      by_cases space : isSpace (.char c) = true
      · obtain ⟨blank, more, rfl, spaces, left⟩ := ih
        refine ⟨c :: blank, more, rfl, ?_, ?_⟩
        · intro d member
          rcases List.mem_cons.1 member with rfl | old
          · exact isSpace_iff.1 space
          · exact spaces d old
        · rw [letters_cons, bare, List.dropWhile_cons, if_pos space]
          exact left
      · refine ⟨[], c :: cs, rfl, blank_nil, ?_⟩
        rw [letters_cons, bare_of_solid _ (Bool.eq_false_iff.2 space)]

theorem blank_of_bare {cs : List Char} (ended : bare (letters cs) = []) : Blank cs := by
  obtain ⟨blank, more, rfl, space, left⟩ := bare_letters cs
  have nothing : more = [] := List.map_eq_nil_iff.1 (left.symm.trans ended)
  rw [nothing, List.append_nil]
  exact space

/-! ## Strings -/

theorem writtenDigit_of_hexValue? {c : Char} {n : Nat} (value : hexValue? (.char c) = some n) :
    WrittenDigit n c := by
  have known : ∀ k < 128, (Hex.value? (UInt8.ofNat k)).all (fun n => decide
      (n < 16 ∧ (Char.ofNat k = Hex.digit n ∨ Char.ofNat k = (Hex.digit n).toUpper))) = true := by
    decide
  rw [hexValue?] at value
  split at value
  · next small =>
      have found := known c.toNat small
      rw [value, Char.ofNat_toNat] at found
      unfold WrittenDigit
      exact of_decide_eq_true found
  · cases value

theorem takes_fourDigits : Takes fourDigits WrittenUnit := by
  intro cs n rest read
  unfold fourDigits at read
  rw [on_bind, on_get, Option.bind_some] at read
  dsimp only at read
  split at read
  · next w x y z i j k l taken values =>
      have parts : letters cs = [w, x, y, z] ++ (letters cs).drop 4 := by
        rw [← taken, List.take_append_drop]
      obtain ⟨a, csA, rfl, rfl, leftA⟩ := letters_eq_cons parts
      obtain ⟨b, csB, rfl, rfl, leftB⟩ := letters_eq_cons leftA.symm
      obtain ⟨c, csC, rfl, rfl, leftC⟩ := letters_eq_cons leftB.symm
      obtain ⟨d, more, rfl, rfl, leftD⟩ := letters_eq_cons leftC.symm
      simp only [letters_cons, List.take_succ_cons, List.take_zero, List.map_cons, List.map_nil,
        List.cons.injEq, and_true] at values
      obtain ⟨first, second, third, fourth⟩ := values
      simp only [on_bind, on_set, Option.bind_some, on_pure, Option.some.injEq,
        Prod.mk.injEq] at read
      obtain ⟨rfl, rfl⟩ := read
      exact ⟨[a, b, c, d], more, rfl, rfl,
        .digits (writtenDigit_of_hexValue? first) (writtenDigit_of_hexValue? second)
          (writtenDigit_of_hexValue? third) (writtenDigit_of_hexValue? fourth)⟩
  · cases read

theorem lt_of_writtenUnit {n : Nat} {ds : List Char} (written : WrittenUnit n ds) :
    n < 0x10000 := by
  cases written with
  | digits first second third fourth =>
      have bounds := And.intro (And.intro first.1 second.1) (And.intro third.1 fourth.1)
      omega

theorem toNat_ofNat_of_valid {n : Nat} (valid : n < 0xD800 ∨ 0xDFFF < n ∧ n < 0x110000) :
    (Char.ofNat n).toNat = n := by
  rw [Char.ofNat, dif_pos (show n.isValidChar from valid)]
  rfl

theorem takes_numbered : Takes numbered fun c text => WrittenChar c ('\\' :: 'u' :: text) := by
  intro cs c rest read
  obtain ⟨n, after, digits, cases_⟩ := numbered_cases read
  obtain ⟨ds, more, rfl, rfl, first⟩ := takes_fourDigits cs n after digits
  have bound := lt_of_writtenUnit first
  -- Outside the surrogates a unit is a character; a high one must go on with a low one.
  rcases cases_ with ⟨notLow, notHigh, value, rfl⟩ |
    ⟨next, low, start, second, isHigh, isLow, value⟩
  · have number : c.toNat = n := value ▸ toNat_ofNat_of_valid (by omega)
    exact ⟨ds, more, rfl, rfl, .number (number.symm ▸ first)⟩
  · obtain ⟨more, rfl, rfl⟩ := @letters_eq_append _ ['\\', 'u'] next start
    obtain ⟨ls, more, rfl, rfl, written⟩ := takes_fourDigits _ low rest second
    have number := congrArg Char.toNat value
    rw [toNat_ofNat_of_valid (by omega)] at number
    exact ⟨ds ++ '\\' :: 'u' :: ls, more, by simp, rfl, .pair isHigh isLow number first written⟩

theorem takes_escape : Takes escape fun c text => WrittenChar c ('\\' :: text) := by
  intro cs c rest read
  unfold escape at read
  rw [on_bind, on_get, Option.bind_some] at read
  dsimp only at read
  split at read
  · cases read
  · next start =>
      rw [on_bind, on_set, Option.bind_some] at read
      obtain ⟨_, more, rfl, same, rfl⟩ := letters_eq_cons start
      cases same
      obtain ⟨text, left, rfl, rfl, written⟩ := takes_numbered _ c rest read
      exact ⟨'u' :: text, left, rfl, rfl, written⟩
  · next d _ _ start =>
      obtain ⟨_, more, rfl, same, rfl⟩ := letters_eq_cons start
      cases same
      split at read
      · next known =>
          cases read
          exact ⟨[d], more, rfl, rfl, .letter known⟩
      · cases read
  · cases read

theorem takes_stringRest (clock : Input) (wellFormed : Bool) (seen : List Char) :
    Takes (stringRest clock wellFormed seen) fun s text =>
      ∃ chars body, s = String.ofList (seen.reverse ++ chars) ∧ text = body ++ ['"'] ∧
        WrittenChars chars body := by
  -- The clock runs out only in a string that is not closed, so its end is never reached.
  induction clock generalizing seen with
  | nil =>
      intro cs s rest read
      cases read
  | cons g clock ih =>
      intro cs s rest read
      rw [stringRest, on_bind, on_get, Option.bind_some] at read
      cases cs with
      | nil => cases read
      | cons c cs =>
          rw [letters_cons] at read
          dsimp only at read
          rw [on_bind, on_set, Option.bind_some, on_ite] at read
          split at read
          · next quote =>
              rw [on_ite] at read
              split at read
              · cases read
                rw [eq_of_beq quote]
                exact ⟨['"'], cs, rfl, rfl, [], [], by simp, rfl, .nil⟩
              · cases read
          · next noQuote =>
              rw [on_ite] at read
              split at read
              · next backslash =>
                  obtain ⟨d, left, escaped, read⟩ := on_bind_eq_some.1 read
                  obtain ⟨text, more, rfl, rfl, char⟩ := takes_escape cs d left escaped
                  obtain ⟨_, after, rfl, rfl, chars, body, rfl, rfl, others⟩ := ih _ _ _ _ read
                  rw [eq_of_beq backslash]
                  exact ⟨'\\' :: (text ++ (body ++ ['"'])), after, by simp, rfl, d :: chars,
                    '\\' :: text ++ body, by simp, by simp, .cons char others⟩
              · rw [on_ite] at read
                split at read
                · cases read
                · next noEscape noControl =>
                    obtain ⟨_, after, rfl, rfl, chars, body, rfl, rfl, others⟩ := ih _ _ _ _ read
                    exact ⟨c :: (body ++ ['"']), after, rfl, rfl, c :: chars, [c] ++ body,
                      by simp, by simp,
                      .cons (.plain (by simpa using noQuote) (by simpa using noEscape) noControl)
                        others⟩

theorem takes_stringBody : Takes stringBody fun s text =>
    ∃ body, text = body ++ ['"'] ∧ WrittenChars s.toList body := by
  intro cs s rest read
  rw [stringBody, on_bind, on_get, Option.bind_some] at read
  obtain ⟨_, more, rfl, rfl, chars, body, rfl, rfl, written⟩ := takes_stringRest _ _ _ _ _ _ read
  exact ⟨body ++ ['"'], more, rfl, rfl, body, rfl, by simpa using written⟩

/-! ## Numbers -/

theorem accept_letters {wanted cs : List Char} {found : Option Char} {rest : Input}
    (read : (accept wanted).on (letters cs) = some (found, rest)) :
    (∃ c more, cs = c :: more ∧ c ∈ wanted ∧ found = some c ∧ rest = letters more) ∨
      found = none ∧ rest = letters cs := by
  unfold accept at read
  rw [on_bind, on_get, Option.bind_some] at read
  cases cs with
  | nil =>
      cases read
      exact Or.inr ⟨rfl, rfl⟩
  | cons c more =>
      rw [letters_cons] at read
      dsimp only at read
      rw [on_ite] at read
      split at read
      · next known =>
          cases read
          exact Or.inl ⟨c, more, rfl, List.contains_iff_mem.1 known, rfl, rfl⟩
      · cases read
        exact Or.inr ⟨rfl, rfl⟩

theorem takes_someDigits : Takes someDigits fun taken ds =>
    ds ≠ [] ∧ (∀ c ∈ ds, c.isDigit = true) ∧ taken = ds.map digitValue := by
  intro cs taken rest read
  -- How a run of digits is read is known already: it is enough to find the run in the text.
  have split : cs = cs.takeWhile Char.isDigit ++ cs.dropWhile Char.isDigit :=
    List.takeWhile_append_dropWhile.symm
  have digits : ∀ c ∈ cs.takeWhile Char.isDigit, c.isDigit = true :=
    List.all_eq_true.1 List.all_takeWhile
  have stops : atDigit (letters (cs.dropWhile Char.isDigit)) = false := by
    apply atDigit_eq_false
    intro c begins
    cases others : cs.dropWhile Char.isDigit with
    | nil =>
        rw [others] at begins
        cases begins
    | cons d more =>
        rw [others] at begins
        cases begins
        have head := List.head?_dropWhile_not Char.isDigit cs
        simpa [others] using head
  generalize cs.takeWhile Char.isDigit = ds at *
  generalize cs.dropWhile Char.isDigit = more at *
  subst split
  cases ds with
  | nil =>
      rw [someDigits, on_bind, on_get, Option.bind_some] at read
      rw [on_ite, List.nil_append, if_neg (by simp [stops])] at read
      cases read
  | cons d ds =>
      rw [letters_append, on_someDigits (List.cons_ne_nil d ds) digits stops] at read
      cases read
      exact ⟨d :: ds, more, rfl, rfl, List.cons_ne_nil d ds, digits, rfl⟩

theorem takes_integerPart : Takes integerPart fun whole ds =>
    (∀ c ∈ ds, c.isDigit = true) ∧ (ds = ['0'] ∨ ∃ c others, ds = c :: others ∧ c ≠ '0') ∧
      whole = ds.map digitValue := by
  intro cs whole rest read
  rcases integerPart_cases read with ⟨start, rfl, -⟩ | ⟨noZero, run⟩
  · obtain ⟨more, rfl, rfl⟩ := @letters_eq_append _ ['0'] rest start
    exact ⟨['0'], more, rfl, rfl, by simp, Or.inl rfl, rfl⟩
  · obtain ⟨ds, more, rfl, rfl, some, digits, same⟩ := takes_someDigits _ _ _ run
    cases ds with
    | nil => exact absurd rfl some
    | cons c others =>
        have leading : c ≠ '0' := by
          rintro rfl
          exact noZero _ rfl
        exact ⟨c :: others, more, rfl, rfl, digits, Or.inr ⟨c, others, rfl, leading⟩, same⟩

theorem takes_fractionPart : Takes fractionPart fun found text =>
    ∃ fraction : Option (List Char), text = Numeral.fractionChars fraction ∧
      (∀ ds, fraction = some ds → ds ≠ [] ∧ ∀ c ∈ ds, c.isDigit = true) ∧
      found = fraction.map fun ds => ds.map digitValue := by
  intro cs found rest read
  unfold fractionPart at read
  obtain ⟨point, left, accepted, read⟩ := on_bind_eq_some.1 read
  rcases accept_letters accepted with ⟨c, more, rfl, known, rfl, rfl⟩ | ⟨rfl, rfl⟩
  · rw [List.mem_singleton.1 known]
    rw [Option.isSome_some, if_pos rfl, on_map, Option.map_eq_some_iff] at read
    obtain ⟨⟨taken, left⟩, run, same⟩ := read
    cases same
    obtain ⟨ds, after, rfl, rfl, some, digits, rfl⟩ := takes_someDigits _ _ _ run
    refine ⟨'.' :: ds, after, rfl, rfl, .some ds, rfl, ?_, rfl⟩
    rintro _ ⟨⟩
    exact ⟨some, digits⟩
  · cases read
    exact ⟨[], cs, rfl, rfl, none, rfl, by simp, rfl⟩

theorem takes_exponentPart : Takes exponentPart Numeral.WrittenExponent := by
  intro cs exponent rest read
  unfold exponentPart at read
  obtain ⟨mark, left, accepted, read⟩ := on_bind_eq_some.1 read
  rcases accept_letters accepted with ⟨c, more, rfl, marked, rfl, rfl⟩ | ⟨rfl, rfl⟩
  · rw [Option.isSome_some, if_pos rfl] at read
    obtain ⟨sign, left, signed, read⟩ := on_bind_eq_some.1 read
    obtain ⟨taken, last, run, same⟩ := on_bind_eq_some.1 read
    cases same
    rcases accept_letters signed with ⟨d, more, rfl, known, rfl, rfl⟩ | ⟨rfl, rfl⟩
    · obtain ⟨ds, after, rfl, rfl, some, digits, rfl⟩ := takes_someDigits _ _ _ run
      rw [List.mem_cons, List.mem_singleton] at known
      rcases known with rfl | rfl
      · exact ⟨c :: (['+'] ++ ds), after, rfl, rfl,
          .upward marked (Or.inr rfl) some digits (congrArg Int.ofNat (foldl_digits ds 0))⟩
      · exact ⟨c :: '-' :: ds, after, rfl, rfl, .downward marked some digits
          (congrArg (fun n : Nat => -(n : Int)) (foldl_digits ds 0))⟩
    · obtain ⟨ds, after, rfl, rfl, some, digits, rfl⟩ := takes_someDigits _ _ _ run
      exact ⟨c :: ([] ++ ds), after, rfl, rfl,
        .upward marked (Or.inl rfl) some digits (congrArg Int.ofNat (foldl_digits ds 0))⟩
  · cases read
    exact ⟨[], cs, rfl, rfl, .absent⟩

theorem sign_letters {cs : List Char} {found : Option Char} {rest : Input}
    (read : (accept ['-']).on (letters cs) = some (found, rest)) :
    ∃ more, cs = (if found.isSome then ['-'] else []) ++ more ∧ rest = letters more := by
  rcases accept_letters read with ⟨c, more, rfl, known, rfl, rfl⟩ | ⟨rfl, rfl⟩
  · rw [List.mem_singleton.1 known]
    exact ⟨more, rfl, rfl⟩
  · exact ⟨cs, rfl, rfl⟩

theorem takes_number : Takes Scan.number WrittenNumber := by
  intro cs n rest read
  rw [Scan.number] at read
  simp only [on_bind_eq_some] at read
  obtain ⟨sign, _, signed, whole, _, integral, found, _, fractional, exponent, _, exponential,
    last⟩ := read
  obtain ⟨cs, rfl, rfl⟩ := sign_letters signed
  obtain ⟨ds, cs, rfl, rfl, digits, leading, rfl⟩ := takes_integerPart _ _ _ integral
  obtain ⟨_, cs, rfl, rfl, fraction, rfl, fractionDigits, rfl⟩ :=
    takes_fractionPart _ _ _ fractional
  obtain ⟨es, cs, rfl, rfl, written⟩ := takes_exponentPart _ _ _ exponential
  obtain ⟨rfl, means⟩ := constant_numberOf _ _ _ _ _ _ _ last
  exact ⟨Numeral.signed ⟨ds, fraction, exponent⟩ sign.isSome es, cs, by simp [Numeral.signed], rfl,
    .numeral ⟨digits, leading, fractionDigits⟩ written means⟩

/-! ## Arrays -/

theorem Blank.append {before after : List Char} (first : Blank before) (second : Blank after) :
    Blank (before ++ after) := by
  intro c member
  rcases List.mem_append.1 member with old | new
  · exact first c old
  · exact second c new

def WrittenAfterSpace (tree : Json) (text : List Char) : Prop :=
  ∃ blank value, text = blank ++ value ∧ Blank blank ∧ WrittenValue tree value

section Containers

variable {item : Scan Json}

theorem takes_itemsWithin (takes : Takes item WrittenAfterSpace) (clock : Input) :
    Takes (itemsWithin item clock false) WrittenItems := by
  induction clock with
  | nil =>
      intro cs xs rest read
      cases read
  | cons g clock ih =>
      intro cs xs rest read
      obtain ⟨before, cs, rfl, spaceBefore, start⟩ := bare_letters cs
      cases itemsWithin_step read with
      | ended stop =>
          rw [start] at stop
          obtain ⟨more, rfl, rfl⟩ := @letters_eq_append _ [']'] rest stop
          exact ⟨before ++ [']'], more, by simp, rfl, .ended spaceBefore⟩
      | more goesOn itemRead later =>
          generalize mark : bare _ = text at goesOn
          cases goesOn with
          | @comma _ following _ next =>
              rw [start] at mark
              obtain ⟨cs, rfl, rfl⟩ := @letters_eq_append _ [','] following mark
              obtain ⟨after, cs, rfl, spaceAfter, startItem⟩ := bare_letters cs
              rw [← next, startItem] at itemRead
              -- The space before an item is dropped twice, by the array and by the item.
              obtain ⟨_, cs, rfl, rfl, blank, value, rfl, space, written⟩ := takes _ _ _ itemRead
              obtain ⟨others, more, rfl, rfl, rest⟩ := ih _ _ _ later
              exact ⟨before ++ ',' :: ((after ++ blank) ++ (value ++ others)), more, by simp, rfl,
                .more spaceBefore (spaceAfter.append space) written rest⟩

theorem takes_array (takes : Takes item WrittenAfterSpace) (clock : Input) :
    Takes (itemsWithin item clock true) fun xs text =>
      WrittenValue (.array xs) ('[' :: text) := by
  intro cs xs rest read
  obtain ⟨blank, cs, rfl, space, start⟩ := bare_letters cs
  cases itemsWithin_step read with
  | ended stop =>
      rw [start] at stop
      obtain ⟨more, rfl, rfl⟩ := @letters_eq_append _ [']'] rest stop
      exact ⟨blank ++ [']'], more, by simp, rfl, .emptyArray space⟩
  | more goesOn itemRead later =>
      generalize mark : bare _ = text at goesOn
      cases goesOn with
      | first other =>
          rw [← mark, start] at itemRead
          obtain ⟨_, cs, rfl, rfl, spaceItem, value, rfl, spaces, written⟩ := takes _ _ _ itemRead
          obtain ⟨others, more, rfl, rfl, rest⟩ := takes_itemsWithin takes _ _ _ _ later
          exact ⟨(blank ++ spaceItem) ++ (value ++ others), more, by simp, rfl,
            .array (space.append spaces) written rest⟩

/-! ## Objects -/

theorem takes_member (takes : Takes item WrittenAfterSpace) {cs : List Char} {key : String}
    {afterKey rest : Input} {seen entries : List (String × Json)}
    (named : stringBody.on (letters cs) = some (key, afterKey))
    (kept : (keep item key seen).on afterKey = some (entries, rest)) :
    ∃ v text more, cs = text ++ more ∧ rest = letters more ∧ entries = (key, v) :: seen ∧
      WrittenMember (key, v) ('"' :: text) := by
  obtain ⟨_, cs, rfl, rfl, name, rfl, writtenName⟩ := takes_stringBody _ _ _ named
  obtain ⟨body, v, colonStart, read, rfl⟩ := keep_cases kept
  obtain ⟨before, cs, rfl, spaceBefore, start⟩ := bare_letters cs
  rw [start] at colonStart
  obtain ⟨cs, rfl, rfl⟩ := @letters_eq_append _ [':'] body colonStart
  obtain ⟨_, more, rfl, rfl, after, value, rfl, spaceAfter, written⟩ := takes _ _ _ read
  exact ⟨v, name ++ '"' :: (before ++ ':' :: (after ++ value)), more, by simp, rfl, rfl,
    .member writtenName spaceBefore spaceAfter written⟩

theorem takes_membersWithin (takes : Takes item WrittenAfterSpace) (clock : Input)
    (seen : List (String × Json)) :
    Takes (membersWithin (keep item) clock false seen) fun entries text =>
      ∃ ms, entries = ms.reverse ++ seen ∧ WrittenMembers ms text := by
  induction clock generalizing seen with
  | nil =>
      intro cs entries rest read
      cases read
  | cons g clock ih =>
      intro cs entries rest read
      obtain ⟨before, cs, rfl, spaceBefore, start⟩ := bare_letters cs
      cases membersWithin_step read with
      | ended stop =>
          rw [start] at stop
          obtain ⟨more, rfl, rfl⟩ := @letters_eq_append _ ['\x7d'] rest stop
          exact ⟨before ++ ['\x7d'], more, by simp, rfl, [], rfl, .ended spaceBefore⟩
      | more goesOn named memberRead later =>
          generalize mark : bare _ = text at goesOn
          cases goesOn with
          | @comma following _ opened =>
              rw [start] at mark
              obtain ⟨cs, rfl, rfl⟩ := @letters_eq_append _ [','] following mark
              obtain ⟨after, cs, rfl, spaceAfter, startMember⟩ := bare_letters cs
              rw [startMember] at opened
              obtain ⟨cs, rfl, rfl⟩ := @letters_eq_append _ ['"'] _ opened
              obtain ⟨v, member, cs, rfl, rfl, rfl, written⟩ := takes_member takes named memberRead
              obtain ⟨others, more, rfl, rfl, ms, rfl, rest⟩ := ih _ _ _ _ later
              exact ⟨before ++ ',' :: (after ++ (('"' :: member) ++ others)), more, by simp, rfl,
                (_, v) :: ms, by simp, .more spaceBefore spaceAfter written rest⟩

theorem takes_object (takes : Takes item WrittenAfterSpace) (clock : Input) :
    Takes (membersWithin (keep item) clock true []) fun entries text =>
      WrittenValue (.object entries.reverse) ('\x7b' :: text) := by
  intro cs entries rest read
  obtain ⟨blank, cs, rfl, space, start⟩ := bare_letters cs
  cases membersWithin_step read with
  | ended stop =>
      rw [start] at stop
      obtain ⟨more, rfl, rfl⟩ := @letters_eq_append _ ['\x7d'] rest stop
      exact ⟨blank ++ ['\x7d'], more, by simp, rfl, .emptyObject space⟩
  | more goesOn named memberRead later =>
      generalize mark : bare _ = text at goesOn
      cases goesOn with
      | first =>
          rw [start] at mark
          obtain ⟨cs, rfl, rfl⟩ := @letters_eq_append _ ['"'] _ mark
          obtain ⟨v, member, cs, rfl, rfl, rfl, written⟩ := takes_member takes named memberRead
          obtain ⟨others, more, rfl, rfl, ms, rfl, rest⟩ :=
            takes_membersWithin takes _ _ _ _ _ later
          refine ⟨blank ++ (('"' :: member) ++ others), more, by simp, rfl, ?_⟩
          have object := WrittenValue.object space written rest
          simpa using object

end Containers

/-! ## Values -/

/-- What a value reader takes is written as a value, if that holds of the items inside. -/
theorem takes_valueOver {nested : Option (Scan Json)}
    (takes : ∀ item, nested = some item → Takes item WrittenAfterSpace) :
    Takes (valueOver nested) WrittenAfterSpace := by
  intro cs tree rest read
  obtain ⟨blank, cs, rfl, space, start⟩ := bare_letters cs
  have kind := valueAt_of_on read
  rw [start] at kind
  -- The space in front is the same in every case, so the cases are left with the value alone.
  have whole : ∀ {value more : List Char}, cs = value ++ more → rest = letters more →
      WrittenValue tree value → ∃ text more, blank ++ cs = text ++ more ∧ rest = letters more ∧
        WrittenAfterSpace tree text := by
    rintro value more rfl left written
    exact ⟨blank ++ value, more, by simp, left, blank, value, rfl, space, written⟩
  generalize begins : letters cs = text at kind
  cases kind with
  | null =>
      obtain ⟨more, split, left⟩ := letters_eq_append begins
      exact whole split left .null
  | yes =>
      obtain ⟨more, split, left⟩ := letters_eq_append begins
      exact whole split left .yes
  | no =>
      obtain ⟨more, split, left⟩ := letters_eq_append begins
      exact whole split left .no
  | @string body _ s got =>
      obtain ⟨cs, rfl, rfl⟩ := @letters_eq_append _ ['"'] body begins
      obtain ⟨_, more, rfl, left, chars, rfl, written⟩ := takes_stringBody _ _ _ got
      exact @whole ('"' :: (chars ++ ['"'])) more rfl left (.string written)
  | @array body _ item xs allowed got =>
      obtain ⟨cs, rfl, rfl⟩ := @letters_eq_append _ ['['] body begins
      obtain ⟨inside, more, rfl, left, written⟩ := takes_array (takes item allowed) _ _ _ _ got
      exact @whole ('[' :: inside) more rfl left written
  | @object body _ item entries allowed got =>
      obtain ⟨cs, rfl, rfl⟩ := @letters_eq_append _ ['\x7b'] body begins
      obtain ⟨inside, more, rfl, left, written⟩ := takes_object (takes item allowed) _ _ _ _ got
      exact @whole ('\x7b' :: inside) more rfl left written
  | number _ got =>
      rw [← begins] at got
      obtain ⟨_, more, rfl, left, written⟩ := takes_number _ _ _ got
      exact whole rfl left (.number written)

theorem takes_value (most : Nat) : Takes (value most) WrittenAfterSpace := by
  induction most with
  | zero => exact takes_valueOver fun item none => nomatch none
  | succ deeper ih => exact takes_valueOver fun item same => Option.some.inj same ▸ ih

theorem document_of_on_value {cs : List Char} {most : Nat} {tree : Json} {rest : Input}
    (read : (value most).on (letters cs) = some (tree, rest)) (ended : bare rest = []) :
    WrittenDocument tree cs := by
  obtain ⟨_, more, rfl, rfl, blank, value, rfl, space, written⟩ := takes_value most _ _ _ read
  rw [List.append_assoc]
  exact .document space written (blank_of_bare ended)

/-- A text is read as a tree exactly when it is a document that writes the tree, with no more
levels than there may be. -/
theorem read_eq_ok_iff_written {s : String} {tree : Json} :
    Json.read s = .ok tree ↔ WrittenDocument tree s.toList ∧ tree.levels ≤ maxLevels := by
  constructor
  · intro read
    obtain ⟨rest, got, ended⟩ := run_eq_ok.1 read
    exact ⟨document_of_on_value got ended, levels_le_of_on_value maxLevels got⟩
  · rintro ⟨written, small⟩
    exact run_eq_ok.2 (on_value_of_document written small)

end HolderBond.Json
