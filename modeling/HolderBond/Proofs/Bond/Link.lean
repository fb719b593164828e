import HolderBond.Proofs.Bond.Transport
import HolderBond.Proofs.Url.Parameters

/-!
# Links to bonds

A transport form is found in every link that has it as the value of its first parameter of the
right name, whatever the address, the other parameters and the fragment are.  The links that are
written are the simplest of these: nothing stands before the parameter or behind it, and none of
the symbols is escaped.
-/

set_option autoImplicit false

namespace HolderBond

/-! ## Symbols in links -/

namespace Base64Url

theorem symbol_standsRaw {n : Nat} (small : n < 64) : Url.StandsRaw (symbol n) := by
  revert n
  decide

theorem symbol_ne_colon {n : Nat} (small : n < 64) : symbol n ≠ ':' := by
  revert n
  decide

theorem eq_nil_of_encode {bytes : List UInt8} (empty : encode bytes = "") : bytes = [] := by
  have noBytes : symbolBytes bytes = [] := by
    rw [← utf8_encode, empty]
    rfl
  exact eq_nil_of_values (List.map_eq_nil_iff.1 noBytes)

end Base64Url

theorem Json.render_ne_empty (j : Json) : j.render ≠ "" := by
  obtain ⟨c, cs, begins, -, -⟩ := @spaced_start .compact 0 j
  rw [spaced_compact] at begins
  intro empty
  have letters := congrArg String.toList empty
  rw [render, String.toList_ofList, begins] at letters
  cases letters

namespace Bond

theorem encode_ne_empty (bond : Bond) : bond.encode ≠ "" := by
  intro empty
  have noBytes : Text.utf8 (Bond.shape.render bond) = Text.utf8 "" :=
    Base64Url.eq_nil_of_encode empty
  exact Json.render_ne_empty _ (Text.utf8_injective noBytes)

theorem encode_standsRaw (bond : Bond) : ∀ c ∈ bond.encode.toList, Url.StandsRaw c :=
  Base64Url.encode_all (fun _ small => Base64Url.symbol_standsRaw small) _

/-! ## Links with a proof -/

structure ProofLink where
  address : List Char
  earlier : List (List Char)
  name : List Char
  value : List Char
  behind : List Char

namespace ProofLink

def query (link : ProofLink) : List Char :=
  link.earlier.flatMap (· ++ ['&']) ++ (link.name ++ '=' :: link.value)

def text (link : ProofLink) : List Char :=
  link.address ++ '?' :: (link.query ++ link.behind)

/-- The first parameter named for a proof has this transport form as its value, any of whose
symbols may be escaped. -/
structure Carries (link : ProofLink) (encoded : String) : Prop where
  address : Url.Address link.address
  whole : ∀ piece ∈ link.earlier, ∀ c ∈ piece, c ≠ '&' ∧ c ≠ '#'
  others : ∀ piece ∈ link.earlier, (Url.formPair (Url.counted piece)).1 ≠ linkParameter
  plain : ∀ c ∈ link.name, c ≠ '&' ∧ c ≠ '#' ∧ c ≠ '='
  named : Url.formDecode (Url.counted link.name) = linkParameter
  written : Url.Written encoded.toList link.value
  ends : ∀ c, link.behind.head? = some c → c = '&' ∨ c = '#'

variable {link : ProofLink} {encoded : String} {before after : List Char}

/-- What is cut off at the end of a link is none of the query. -/
theorem Carries.trimmedEnd (carries : link.Carries encoded)
    (raw : ∀ c ∈ encoded.toList, Url.StandsRaw c) (present : encoded ≠ "")
    (blank : ∀ c ∈ after, Text.isBlank c = true) :
    ∃ tail, Url.trimmedEnd (link.query ++ link.behind ++ after) = link.query ++ tail ∧
      ∀ c, tail.head? = some c → c = '&' ∨ c = '#' := by
  have solid : ∀ c ∈ link.value, Url.isMargin c = false ∧ Text.isBlank c = false :=
    carries.written.forall_mem (fun _ stands => stands.solid) (by decide) raw
  have some : link.value ≠ [] := by
    refine carries.written.ne_nil fun empty => present (String.toList_inj.1 ?_)
    rw [empty]
    rfl
  obtain ⟨front, last, value⟩ := (List.eq_nil_or_concat' link.value).resolve_left some
  obtain ⟨noMargin, visible⟩ := solid last (by rw [value]; simp)
  obtain ⟨lead, query⟩ : ∃ lead, link.query = lead ++ [last] :=
    ⟨link.earlier.flatMap (· ++ ['&']) ++ (link.name ++ '=' :: front), by
      rw [ProofLink.query, value]; simp⟩
  have cut : ∀ more, Url.trimmedEnd (link.query ++ more) = link.query ++ Url.trimmedEnd more := by
    intro more
    rw [query, ← List.append_cons, Url.trimmedEnd, Text.dropTrailing_cons_stop visible,
      Text.dropTrailing_cons_stop noMargin, List.append_cons]
    rfl
  rw [List.append_assoc, cut]
  refine ⟨_, rfl, ?_⟩
  intro c head
  cases behind : link.behind with
  | nil =>
      have nothing : Text.dropTrailing Text.isBlank ([] ++ after) = [] :=
        Text.dropTrailing_append_of_all blank []
      rw [behind, Url.trimmedEnd, nothing] at head
      cases head
  | cons mark more =>
      have isMark := carries.ends mark (by rw [behind]; rfl)
      have solidMark : Url.isMargin mark = false ∧ Text.isBlank mark = false := by
        rcases isMark with rfl | rfl <;> decide
      have kept := Text.dropTrailing_cons_stop solidMark.2 [] (more ++ after)
      have keptAgain := Text.dropTrailing_cons_stop solidMark.1 []
        (Text.dropTrailing Text.isBlank (more ++ after))
      rw [List.nil_append, List.nil_append] at kept keptAgain
      rw [behind, List.cons_append, Url.trimmedEnd, kept, keptAgain] at head
      rw [← Option.some.inj head]
      exact isMark

theorem Carries.counted_query (carries : link.Carries encoded)
    (raw : ∀ c ∈ encoded.toList, Url.StandsRaw c) :
    Url.counted link.query = (link.earlier.map Url.counted).flatMap (· ++ ['&']) ++
      (Url.counted link.name ++ '=' :: link.value) := by
  have solid : ∀ c ∈ link.value, Url.isMargin c = false :=
    carries.written.forall_mem (fun _ stands => stands.solid.1) (by decide) raw
  have pieces : ∀ earlier : List (List Char), Url.counted (earlier.flatMap (· ++ ['&'])) =
      (earlier.map Url.counted).flatMap (· ++ ['&']) := by
    intro earlier
    induction earlier with
    | nil => rfl
    | cons piece earlier ih =>
        rw [List.flatMap_cons, Url.counted_append, Url.counted_append, ih]
        rfl
  rw [query, Url.counted_append, Url.counted_append, pieces, Url.counted_cons (by decide),
    Url.counted_of_solid solid]

/-- The first parameter named for a proof is the one of the link, whatever is left behind it. -/
theorem Carries.firstNamed? (carries : link.Carries encoded)
    (raw : ∀ c ∈ encoded.toList, Url.StandsRaw c) {tail : List Char}
    (ends : ∀ c, tail.head? = some c → c = '&') :
    Url.firstNamed? linkParameter (Url.counted link.query ++ tail) =
      some (linkParameter, Url.formDecode link.value) := by
  have whole : ∀ piece ∈ link.earlier.map Url.counted, '&' ∉ piece := by
    intro piece member inside
    obtain ⟨written, known, rfl⟩ := List.mem_map.1 member
    exact (carries.whole written known _ (Url.mem_of_mem_counted inside)).1 rfl
  have others : ∀ piece ∈ link.earlier.map Url.counted, (Url.formPair piece).1 ≠ linkParameter := by
    intro piece member
    obtain ⟨written, known, rfl⟩ := List.mem_map.1 member
    exact carries.others written known
  have plain : ∀ c ∈ Url.counted link.name, c ≠ '&' ∧ c ≠ '=' := by
    intro c member
    obtain ⟨noMark, -, noParting⟩ := carries.plain c (Url.mem_of_mem_counted member)
    exact ⟨noMark, noParting⟩
  have value : '&' ∉ link.value := fun member =>
    carries.written.forall_mem (fun _ stands => stands.2.2.2.1) (by decide) raw _ member rfl
  have found := Url.firstNamed?_here plain value ends
  rw [carries.named] at found
  rw [carries.counted_query raw, List.append_assoc, Url.firstNamed?_skip_all whole others, found]

theorem Carries.takeWhile_query (carries : link.Carries encoded)
    (raw : ∀ c ∈ encoded.toList, Url.StandsRaw c) {tail : List Char}
    (ends : ∀ c, tail.head? = some c → c = '&' ∨ c = '#') :
    ∃ kept, (Url.counted (link.query ++ tail)).takeWhile (· != '#') =
      Url.counted link.query ++ kept ∧ ∀ c, kept.head? = some c → c = '&' := by
  have unbroken : ∀ c ∈ link.query, c ≠ '#' := by
    intro c member
    rcases List.mem_append.1 member with earlier | own
    · obtain ⟨piece, known, inside⟩ := List.mem_flatMap.1 earlier
      rcases List.mem_append.1 inside with letter | mark
      · exact (carries.whole piece known c letter).2
      · rw [List.mem_singleton.1 mark]
        decide
    · rcases List.mem_append.1 own with letter | behind
      · exact (carries.plain c letter).2.1
      · rcases List.mem_cons.1 behind with rfl | letter
        · decide
        · exact carries.written.forall_mem (fun _ stands => stands.2.2.2.2) (by decide) raw c letter
  have kept : ∀ c ∈ Url.counted link.query, (c != '#') = true := fun c member =>
    bne_iff_ne.2 (unbroken c (Url.mem_of_mem_counted member))
  rw [Url.counted_append, List.takeWhile_append_of_pos kept]
  refine ⟨_, rfl, ?_⟩
  intro c head
  cases tail with
  | nil => cases head
  | cons mark more =>
      rcases ends mark rfl with rfl | rfl
      · rw [Url.counted_cons (by decide), List.takeWhile_cons_of_pos (by decide)] at head
        exact (Option.some.inj head).symm
      · rw [Url.counted_cons (by decide), List.takeWhile_cons_of_neg (by decide)] at head
        cases head

/-- The transport form is found, with blanks around the link or without. -/
theorem Carries.ofLink (carries : link.Carries encoded)
    (raw : ∀ c ∈ encoded.toList, Url.StandsRaw c) (present : encoded ≠ "")
    (blankBefore : ∀ c ∈ before, Text.isBlank c = true)
    (blankAfter : ∀ c ∈ after, Text.isBlank c = true) :
    Bond.ofLink (String.ofList (before ++ link.text ++ after)) = .ok encoded := by
  obtain ⟨tail, trimmed, ends⟩ := carries.trimmedEnd raw present blankAfter
  obtain ⟨kept, query, marks⟩ := carries.takeWhile_query raw ends
  obtain ⟨scheme, read⟩ := carries.address.read_query blankBefore
    (link.query ++ link.behind ++ after)
  rw [trimmed, query] at read
  have whole : before ++ link.text ++ after =
      before ++ link.address ++ '?' :: (link.query ++ link.behind ++ after) := by
    simp [text]
  have found : ((⟨scheme, some (Url.counted link.query ++ kept)⟩ : Url).pairs.find?
      fun pair => pair.1 == linkParameter) = some (linkParameter, Url.formDecode link.value) :=
    carries.firstNamed? raw marks
  have value := carries.written.formDecode raw
  rw [Bond.ofLink, whole, read]
  simp only [found, value, String.ofList_toList]
  rw [if_neg (by simpa using present)]

end ProofLink

/-! ## Links that are written -/

def address (base : String) : String :=
  withoutSlashes base ++ linkPath

theorem address_eq (base : String) :
    ∃ front, address base = String.ofList (front ++ ['d']) := by
  refine ⟨(withoutSlashes base).toList ++ "/verify-bon".toList, String.toList_inj.1 ?_⟩
  rw [address, String.toList_append, String.toList_ofList, List.append_assoc]
  rfl

def linkQuery (bond : Bond) : List Char :=
  linkParameter.toList ++ '=' :: bond.encode.toList

theorem link_eq (base : String) (bond : Bond) :
    link base bond = String.ofList ((address base).toList ++ '?' :: bond.linkQuery) := by
  refine String.toList_inj.1 ?_
  simp only [link, address, linkQuery, String.toList_append, String.toList_ofList,
    List.append_assoc]
  rfl

theorem mark_mem_link (base : String) (bond : Bond) : '?' ∈ (link base bond).toList := by
  rw [link_eq, String.toList_ofList]
  exact List.mem_append_right _ List.mem_cons_self

def linkParts (base : String) (bond : Bond) : ProofLink where
  address := (address base).toList
  earlier := []
  name := linkParameter.toList
  value := bond.encode.toList
  behind := []

theorem named_linkParameter :
    Url.formDecode (Url.counted linkParameter.toList) = linkParameter := by
  decide +kernel

theorem linkParts_carries {base : String} (inOrder : Url.Address (address base).toList)
    (bond : Bond) : (linkParts base bond).Carries bond.encode := by
  have plain : ∀ c ∈ linkParameter.toList, c ≠ '&' ∧ c ≠ '#' ∧ c ≠ '=' :=
    Text.forall_mem_of_all (by decide)
  exact
    { address := by simpa only [linkParts] using inOrder
      whole := by simp [linkParts]
      others := by simp [linkParts]
      plain
      named := named_linkParameter
      written := by simpa only [linkParts] using Url.Written.self bond.encode.toList
      ends := by simp [linkParts] }

/-- What was put into a link is found in it. -/
theorem ofLink_link {base : String} {url : Url} (accepted : Url.read (address base) = .ok url)
    (plain : ∀ c ∈ (address base).toList, c ≠ '?' ∧ c ≠ '#') (bond : Bond) :
    ofLink (link base bond) = .ok bond.encode := by
  have inOrder : Url.Address (address base).toList := by
    refine Url.address_of_read (by rw [String.ofList_toList]; exact accepted) plain ?_
    intro last found
    obtain ⟨front, shown⟩ := address_eq base
    rw [shown, String.toList_ofList, List.getLast?_concat] at found
    rw [← Option.some.inj found]
    decide
  have noBlanks : ∀ c ∈ ([] : List Char), Text.isBlank c = true := by simp
  have found := (linkParts_carries inOrder bond).ofLink bond.encode_standsRaw
    bond.encode_ne_empty noBlanks noBlanks
  have text : link base bond = String.ofList ([] ++ (linkParts base bond).text ++ []) := by
    rw [link_eq, List.nil_append, List.append_nil, ProofLink.text]
    simp [linkParts, ProofLink.query, linkQuery]
  rw [text, found]

end Bond

end HolderBond
