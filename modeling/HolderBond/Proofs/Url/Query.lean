import HolderBond.Proofs.Text.Edges
import HolderBond.Url.Basic
import Mathlib.Data.List.Basic

/-!
# Links with a query

An address that is in order stays so when a query is put behind it, whatever the query and the
fragment are and whatever blanks stand around the whole; what counts of the query up to the
fragment is what is kept of the link.
-/

set_option autoImplicit false

namespace HolderBond.Url

open Text (takeWhile_stop dropWhile_stop dropTrailing dropTrailing_cons_stop)

/-! ## Characters that count -/

theorem isIgnored_of_solid {c : Char} (solid : isMargin c = false) : isIgnored c = false := by
  have margins : isMargin '\t' = true ∧ isMargin '\n' = true ∧ isMargin '\r' = true := by decide
  rw [isIgnored]
  by_contra ignored
  simp only [Bool.not_eq_false, Bool.or_eq_true, beq_iff_eq] at ignored
  rcases ignored with (rfl | rfl) | rfl <;> simp_all

theorem isBlank_of_isAlpha {c : Char} (alpha : c.isAlpha = true) : Text.isBlank c = false := by
  have ranges : (decide (65 ≤ c.val ∧ c.val ≤ 90) ||
      decide (97 ≤ c.val) && decide (c.val ≤ 122)) = true := alpha
  simp only [Bool.or_eq_true, Bool.and_eq_true, decide_eq_true_eq,
    UInt32.le_iff_toNat_le] at ranges
  have letter : (65 ≤ c.toNat ∧ c.toNat ≤ 90) ∨ (97 ≤ c.toNat ∧ c.toNat ≤ 122) := ranges
  simp only [Text.isBlank, Bool.or_eq_false_iff, Bool.and_eq_false_iff, decide_eq_false_iff_not,
    beq_eq_false_iff_ne]
  omega

def counted (cs : List Char) : List Char :=
  cs.filter fun c => !isIgnored c

theorem counted_append (cs ds : List Char) : counted (cs ++ ds) = counted cs ++ counted ds :=
  List.filter_append ..

theorem counted_cons {c : Char} (solid : isMargin c = false) (cs : List Char) :
    counted (c :: cs) = c :: counted cs := by
  rw [counted, List.filter_cons_of_pos (by rw [isIgnored_of_solid solid]; rfl), ← counted]

theorem counted_of_solid {cs : List Char} (solid : ∀ c ∈ cs, isMargin c = false) :
    counted cs = cs := by
  rw [counted, List.filter_eq_self]
  intro c member
  rw [isIgnored_of_solid (solid c member)]
  rfl

theorem mem_of_mem_counted {c : Char} {cs : List Char} (member : c ∈ counted cs) : c ∈ cs :=
  (List.mem_filter.1 member).1

/-! ## Scheme -/

theorem splitScheme?_eq_some_iff {cs scheme rest : List Char} :
    splitScheme? cs = some (scheme, rest) ↔
      ∃ c name, cs = c :: name ++ ':' :: rest ∧ c.isAlpha = true ∧
        (∀ d ∈ name, isSchemeChar d = true) ∧ scheme = (c :: name).map Char.toLower := by
  constructor
  · intro found
    cases cs with
    | nil => cases found
    | cons c cs =>
        rw [splitScheme?] at found
        split at found
        · next alpha =>
            split at found
            · next after behind =>
                cases found
                refine ⟨c, cs.takeWhile isSchemeChar, ?_, alpha, ?_, rfl⟩
                · rw [← behind, List.cons_append, List.takeWhile_append_dropWhile]
                · intro d member
                  exact List.mem_takeWhile_imp member
            · cases found
        · cases found
  · rintro ⟨c, name, rfl, alpha, schemeChars, rfl⟩
    have stop : isSchemeChar ':' = false := by decide
    rw [List.cons_append, splitScheme?, if_pos alpha, dropWhile_stop stop, takeWhile_stop stop,
      List.dropWhile_eq_nil_iff.2 schemeChars, List.takeWhile_eq_self_iff.2 schemeChars]
    rfl

/-! ## Host -/

theorem splitUser_bare {part : List Char} (bare : splitUser part = (some [], [])) :
    part = ['@'] := by
  rw [splitUser] at bare
  split at bare
  · next mark user behind =>
      simp only [Prod.mk.injEq, Option.some.injEq, List.reverse_eq_nil_iff] at bare
      obtain ⟨rfl, nothing⟩ := bare
      have whole : part.reverse = [mark] := by
        rw [← List.takeWhile_append_dropWhile (p := (· != '@')) (l := part.reverse), nothing,
          behind]
        rfl
      have isMark : mark = '@' := by
        have head := List.head?_dropWhile_not (· != '@') part.reverse
        rw [behind] at head
        simpa using head
      rw [← List.reverse_reverse part, whole, isMark]
      rfl
  · cases bare

/-- A mark that ends the authority hides what comes behind it, unless what stands before it ends
with a user for whom a host is missing. -/
theorem checkAuthority_append {kind : SchemeKind} {mark : Char}
    (ends : endsAuthority kind mark = true) {rest : List Char} (named : rest.getLast? ≠ some '@')
    (tail : List Char) : checkAuthority kind (rest ++ mark :: tail) = checkAuthority kind rest := by
  have part : (rest ++ mark :: tail).takeWhile (fun c => !endsAuthority kind c) =
      rest.takeWhile fun c => !endsAuthority kind c :=
    takeWhile_stop (by rw [ends]; rfl) rest tail
  have front := List.takeWhile_prefix (fun c => !endsAuthority kind c) (l := rest)
  rw [checkAuthority, checkAuthority, part]
  generalize rest.takeWhile (fun c => !endsAuthority kind c) = part at front ⊢
  cases found : splitUser part with
  | mk user host =>
      match user, host with
      | none, _ => rfl
      | some (_ :: _), _ => rfl
      | some [], _ :: _ => rfl
      | some [], [] =>
          -- Here alone it counts whether the part is all there is, and it is not.
          obtain rfl := splitUser_bare found
          have notAll : ['@'].length ≠ rest.length := by
            intro same
            rw [← front.eq_of_length same] at named
            exact named rfl
          have shorter : ['@'].length ≠ (rest ++ mark :: tail).length := by
            have most := front.length_le
            have behind : (mark :: tail).length = tail.length + 1 := rfl
            rw [List.length_append, behind]
            rw [List.length_singleton] at most ⊢
            omega
          simp only [if_neg notAll, if_neg shorter]

theorem checkAuthority_mark {kind : SchemeKind} {mark : Char}
    (ends : endsAuthority kind mark = true) (rest tail : List Char) :
    checkAuthority kind (rest ++ mark :: tail) = checkAuthority kind (rest ++ [mark]) := by
  have part : ∀ more, (rest ++ mark :: more).takeWhile (fun c => !endsAuthority kind c) =
      rest.takeWhile fun c => !endsAuthority kind c :=
    takeWhile_stop (by rw [ends]; rfl) rest
  have shorter : ∀ more, (rest.takeWhile fun c => !endsAuthority kind c).length ≠
      (rest ++ mark :: more).length := by
    intro more same
    have most := (List.takeWhile_prefix (fun c => !endsAuthority kind c) (l := rest)).length_le
    rw [List.length_append, List.length_cons] at same
    omega
  rw [checkAuthority, checkAuthority, part, part]
  simp only [if_neg (shorter tail), if_neg (shorter [])]

/-- What may come behind an address: a question mark with anything behind it, or nothing. -/
def EndsAddress (more : List Char) : Prop :=
  more = [] ∨ ∃ tail, more = '?' :: tail

theorem EndsAddress.takeWhile {p : Char → Bool} {more : List Char} (ends : EndsAddress more)
    (stop : p '?' = false) (rest : List Char) : (rest ++ more).takeWhile p = rest.takeWhile p := by
  rcases ends with rfl | ⟨tail, rfl⟩
  · rw [List.append_nil]
  · exact takeWhile_stop stop rest tail

theorem EndsAddress.dropWhile {p : Char → Bool} {more : List Char} (ends : EndsAddress more)
    (stop : p '?' = false) (rest : List Char) :
    (rest ++ more).dropWhile p = rest.dropWhile p ++ more := by
  rcases ends with rfl | ⟨tail, rfl⟩
  · rw [List.append_nil, List.append_nil]
  · exact dropWhile_stop stop rest tail

theorem checkRest_congr {kind : SchemeKind} {rest more others : List Char}
    (ends : EndsAddress more) (ends' : EndsAddress others)
    (authority : ∀ behind, behind <:+ rest →
      checkAuthority kind (behind ++ more) = checkAuthority kind (behind ++ others)) :
    checkRest kind (rest ++ more) = checkRest kind (rest ++ others) := by
  have notSlash : isSlash '?' = false := by decide
  cases kind with
  | web =>
      rw [checkRest, checkRest, ends.dropWhile notSlash, ends'.dropWhile notSlash]
      exact authority _ (List.dropWhile_suffix _)
  | other =>
      match rest with
      | [] => rcases ends with rfl | ⟨_, rfl⟩ <;> rcases ends' with rfl | ⟨_, rfl⟩ <;> rfl
      | [a] =>
          rcases ends with rfl | ⟨_, rfl⟩ <;> rcases ends' with rfl | ⟨_, rfl⟩ <;>
            simp [checkRest]
      | a :: b :: rest =>
          by_cases slashes : a = '/' ∧ b = '/'
          · obtain ⟨rfl, rfl⟩ := slashes
            exact authority rest ((List.suffix_cons _ _).trans (List.suffix_cons _ _))
          · simp only [List.cons_append]
            rw [checkRest, checkRest] <;> simp_all
  | file =>
      have stop : (!endsAuthority .file '?') = false := by decide
      have free : ∀ {more}, EndsAddress more → checkRest .file more = .ok () := by
        rintro _ (rfl | ⟨tail, rfl⟩)
        · rfl
        · cases tail <;> rfl
      match rest with
      | [] => exact (free ends).trans (free ends').symm
      | [a] =>
          rcases ends with rfl | ⟨_, rfl⟩ <;> rcases ends' with rfl | ⟨_, rfl⟩ <;>
            simp [checkRest, notSlash]
      | a :: b :: rest =>
          have host := ends.takeWhile (p := fun c => !endsAuthority .file c) stop rest
          have host' := ends'.takeWhile (p := fun c => !endsAuthority .file c) stop rest
          simp only [List.cons_append]
          rw [checkRest, checkRest, host, host']

/-- What comes behind a question mark does not matter for what stands before it. -/
theorem checkRest_mark (kind : SchemeKind) (rest tail : List Char) :
    checkRest kind (rest ++ '?' :: tail) = checkRest kind (rest ++ ['?']) := by
  have ends : endsAuthority kind '?' = true := by cases kind <;> rfl
  exact checkRest_congr (Or.inr ⟨tail, rfl⟩) (Or.inr ⟨[], rfl⟩) fun behind _ =>
    checkAuthority_mark ends behind tail

theorem checkRest_append {kind : SchemeKind} {rest : List Char}
    (named : rest.getLast? ≠ some '@') (tail : List Char) :
    checkRest kind (rest ++ '?' :: tail) = checkRest kind rest := by
  have ends : endsAuthority kind '?' = true := by cases kind <;> rfl
  have same : checkRest kind (rest ++ '?' :: tail) = checkRest kind (rest ++ []) := by
    refine checkRest_congr (Or.inr ⟨tail, rfl⟩) (Or.inl rfl) ?_
    rintro behind ⟨front, rfl⟩
    rw [List.append_nil]
    refine checkAuthority_append ends (fun last => named ?_) tail
    rw [List.getLast?_append, last]
    rfl
  rw [same, List.append_nil]

/-! ## Whole links -/

theorem read_eq_ok_iff (s : String) (url : Url) :
    read s = .ok url ↔ ∃ scheme rest, splitScheme? (countedChars s) = some (scheme, rest) ∧
      checkRest (SchemeKind.ofScheme (String.ofList scheme)) rest = .ok () ∧
      url = ⟨String.ofList scheme, queryOf? rest⟩ := by
  unfold read
  cases found : splitScheme? (countedChars s) with
  | none => simp
  | some parts =>
      obtain ⟨scheme, rest⟩ := parts
      cases checked : checkRest (SchemeKind.ofScheme (String.ofList scheme)) rest with
      | error fault => simp [checked]
      | ok =>
          constructor
          · intro same
            simp only [checked] at same
            exact ⟨scheme, rest, rfl, checked, (Except.ok.inj same).symm⟩
          · rintro ⟨_, _, same, -, rfl⟩
            cases same
            simp only [checked]
            rfl

/-- An address without a query and without a fragment, in order as soon as a question mark
follows. -/
structure Address (cs : List Char) : Prop where
  accepted : ∃ url, read (String.ofList (cs ++ ['?'])) = .ok url
  plain : ∀ c ∈ cs, c ≠ '?' ∧ c ≠ '#'

theorem countedChars_query (cs : List Char) (tail : List Char) :
    countedChars (String.ofList (cs ++ '?' :: tail)) =
      counted (cs.dropWhile isMargin) ++ '?' :: counted (dropTrailing isMargin tail) := by
  have solid : isMargin '?' = false := by decide
  rw [countedChars, String.toList_ofList, dropWhile_stop solid, dropTrailing_cons_stop solid,
    ← counted, counted_append, counted_cons solid]

theorem Address.parts {cs : List Char} (address : Address cs) :
    ∃ c name rest, counted (cs.dropWhile isMargin) = c :: name ++ ':' :: rest ∧
      c.isAlpha = true ∧ (∀ d ∈ name, isSchemeChar d = true) ∧
      checkRest (SchemeKind.ofScheme (String.ofList ((c :: name).map Char.toLower)))
        (rest ++ ['?']) = .ok () := by
  obtain ⟨url, accepted⟩ := address.accepted
  obtain ⟨scheme, rest, split, checked, -⟩ := (read_eq_ok_iff _ _).1 accepted
  rw [countedChars_query] at split
  obtain ⟨c, name, whole, alpha, schemeChars, rfl⟩ := splitScheme?_eq_some_iff.1 split
  -- The question mark is the last of the characters, so it is the last of the rest.
  obtain ⟨front, rfl⟩ : ∃ front, rest = front ++ ['?'] := by
    have last : (counted (cs.dropWhile isMargin) ++ ['?']).getLast? =
        (c :: name ++ ':' :: rest).getLast? := congrArg List.getLast? whole
    rw [List.getLast?_concat, List.getLast?_append, List.getLast?_cons] at last
    rcases List.eq_nil_or_concat' rest with rfl | ⟨front, d, rfl⟩
    · cases last
    · rw [List.getLast?_concat] at last
      have here : '?' = d := Option.some.inj last
      exact ⟨front, by rw [here]⟩
  refine ⟨c, name, front, ?_, alpha, schemeChars, checked⟩
  have ended : counted (cs.dropWhile isMargin) ++ ['?'] = (c :: name ++ ':' :: front) ++ ['?'] := by
    rw [List.append_assoc]
    exact whole
  exact List.append_cancel_right ended

theorem Address.begins {cs : List Char} (address : Address cs) :
    ∀ c, (cs.dropWhile isMargin).head? = some c → c.isAlpha = true := by
  intro x head
  obtain ⟨c, name, rest, parts, alpha, -⟩ := address.parts
  cases begun : cs.dropWhile isMargin with
  | nil =>
      rw [begun] at head
      cases head
  | cons d more =>
      have solid : isMargin d = false := by
        have first := List.head?_dropWhile_not isMargin cs
        rw [begun] at first
        simpa using first
      rw [begun] at head parts
      rw [counted_cons solid] at parts
      rw [← Option.some.inj head, (List.cons.inj parts).1]
      exact alpha

def trimmedEnd (tail : List Char) : List Char :=
  dropTrailing isMargin (dropTrailing Text.isBlank tail)

theorem countedChars_trim_query {cs before : List Char}
    (begins : ∀ c, (cs.dropWhile isMargin).head? = some c → c.isAlpha = true)
    (blank : ∀ c ∈ before, Text.isBlank c = true) (tail : List Char) :
    countedChars (Text.trim (String.ofList (before ++ cs ++ '?' :: tail))) =
      counted (cs.dropWhile isMargin) ++ '?' :: counted (trimmedEnd tail) := by
  have visible : Text.isBlank '?' = false := by decide
  have blanks : (before ++ cs).dropWhile Text.isBlank = cs.dropWhile Text.isBlank := by
    rw [List.dropWhile_append, List.dropWhile_eq_nil_iff.2 blank]
    rfl
  have margin : (cs.dropWhile Text.isBlank).dropWhile isMargin = cs.dropWhile isMargin :=
    Text.dropWhile_dropWhile_of_head fun c head => isBlank_of_isAlpha (begins c head)
  rw [Text.trim, Text.trimChars, String.toList_ofList, dropWhile_stop visible,
    dropTrailing_cons_stop visible, countedChars_query, blanks, margin]
  rfl

/-- A link with a query, blanks around the whole, is in order, and what counts of the query up to
the fragment is kept. -/
theorem Address.read_query {cs before : List Char} (address : Address cs)
    (blank : ∀ c ∈ before, Text.isBlank c = true) (tail : List Char) :
    ∃ scheme, read (Text.trim (String.ofList (before ++ cs ++ '?' :: tail))) =
      .ok ⟨scheme, some ((counted (trimmedEnd tail)).takeWhile (· != '#'))⟩ := by
  obtain ⟨c, name, rest, parts, alpha, schemeChars, checked⟩ := address.parts
  have whole : countedChars (Text.trim (String.ofList (before ++ cs ++ '?' :: tail))) =
      c :: name ++ ':' :: (rest ++ '?' :: counted (trimmedEnd tail)) := by
    rw [countedChars_trim_query address.begins blank, parts, List.append_assoc]
    rfl
  have plain : ∀ d ∈ rest, d ≠ '?' ∧ d ≠ '#' := by
    intro d member
    have inAddress : d ∈ counted (cs.dropWhile isMargin) := by
      rw [parts]
      exact List.mem_append_right _ (List.mem_cons_of_mem _ member)
    exact address.plain d ((List.dropWhile_suffix _).subset (mem_of_mem_counted inAddress))
  have query : queryOf? (rest ++ '?' :: counted (trimmedEnd tail)) =
      some ((counted (trimmedEnd tail)).takeWhile (· != '#')) := by
    have noFragment : ∀ d ∈ rest, (d != '#') = true := fun d member =>
      bne_iff_ne.2 (plain d member).2
    have noMark : rest.dropWhile (· != '?') = [] :=
      List.dropWhile_eq_nil_iff.2 fun d member => bne_iff_ne.2 (plain d member).1
    rw [queryOf?, List.takeWhile_append_of_pos noFragment, List.takeWhile_cons_of_pos (by decide),
      dropWhile_stop (by decide), noMark]
    rfl
  refine ⟨String.ofList ((c :: name).map Char.toLower), (read_eq_ok_iff _ _).2 ⟨_, _,
    splitScheme?_eq_some_iff.2 ⟨c, name, whole, alpha, schemeChars, rfl⟩, ?_, ?_⟩⟩
  · rw [checkRest_mark]
    exact checked
  · rw [query]

/-- An address that is in order on its own stays so before a question mark, unless it ends with a
user or with a margin, which is none before a question mark. -/
theorem address_of_read {cs : List Char} {url : Url} (accepted : read (String.ofList cs) = .ok url)
    (plain : ∀ c ∈ cs, c ≠ '?' ∧ c ≠ '#')
    (ends : ∀ last, cs.getLast? = some last → isMargin last = false ∧ last ≠ '@') :
    Address cs := by
  obtain ⟨scheme, rest, split, checked, -⟩ := (read_eq_ok_iff _ _).1 accepted
  obtain ⟨c, name, whole, alpha, schemeChars, rfl⟩ := splitScheme?_eq_some_iff.1 split
  rcases List.eq_nil_or_concat' cs with rfl | ⟨front, last, rfl⟩
  · cases whole
  obtain ⟨solid, noUser⟩ := ends last List.getLast?_concat
  have kept : counted (front.dropWhile isMargin) ++ [last] = c :: name ++ ':' :: rest := by
    rw [← whole, countedChars, String.toList_ofList, dropWhile_stop solid,
      dropTrailing_cons_stop solid, ← counted, counted_append, counted_cons solid]
    rfl
  have named : rest.getLast? ≠ some '@' := by
    intro isUser
    have final := congrArg List.getLast? kept
    rw [List.getLast?_concat, List.getLast?_append, List.getLast?_cons, isUser] at final
    exact noUser (Option.some.inj final)
  refine ⟨⟨_, (read_eq_ok_iff _ _).2 ⟨_, rest ++ ['?'],
    splitScheme?_eq_some_iff.2 ⟨c, name, ?_, alpha, schemeChars, rfl⟩, ?_, rfl⟩⟩, plain⟩
  · rw [countedChars_query, dropWhile_stop solid, counted_append, counted_cons solid]
    exact (congrArg (· ++ ['?']) kept).trans (List.append_assoc ..)
  · rw [checkRest_append named]
    exact checked

end HolderBond.Url
