import HolderBond.Proofs.Bond.Link
import HolderBond.Proofs.Bond.Spelling

/-!
# Transport forms that are shared

All spellings of a transport form travel in links: their symbols stand for themselves or are
escaped, plus signs that forms turn into blanks are turned back, and padding is no part of the
name before it.  A link refuses a spelling only where its address is no address once a question
mark follows.
-/

set_option autoImplicit false

namespace HolderBond

/-! ## Symbols of both alphabets in links -/

namespace Base64Url

theorem StandsFor.standsRaw {c : Char} {n : Nat} (stands : StandsFor c n) : Url.StandsRaw c := by
  have standard : ∀ d ∈ standardAlphabet, Url.StandsRaw d := Text.forall_mem_of_all (by decide)
  have url : ∀ d ∈ urlAlphabet, Url.StandsRaw d := Text.forall_mem_of_all (by decide)
  rcases stands with here | here
  · exact standard c (List.mem_of_getElem? here)
  · exact url c (List.mem_of_getElem? here)

theorem Spells.standsRaw {text : String} {ns : List Nat} (spells : Spells text ns) :
    ∀ c ∈ text.toList, Url.StandsRaw c := by
  obtain ⟨symbols, pads, letters, stand, -⟩ := spells.letters
  have known : ∀ c ∈ symbols, Url.StandsRaw c := by
    clear letters spells
    induction stand with
    | nil => simp
    | cons first _ ih => exact List.forall_mem_cons.2 ⟨first.standsRaw, ih⟩
  intro c member
  rw [letters] at member
  rcases List.mem_append.1 member with symbol | pad
  · exact known c symbol
  · rw [List.eq_of_mem_replicate pad]
    decide

/-- The spelling in the standard alphabet, with all the padding that there is room for. -/
def paddedForm (bytes : List UInt8) : String :=
  String.ofList ((values bytes).map (fun n => if n = 62 then '+' else if n = 63 then '/' else
    symbol n) ++ List.replicate (room (values bytes).length) '=')

theorem spells_paddedForm (bytes : List UInt8) : Spells (paddedForm bytes) (values bytes) := by
  refine ⟨⟨_, _, String.toList_ofList, ?_, le_rfl⟩, lossless_values bytes⟩
  refine List.forall₂_map_left_iff.2 (List.forall₂_same.2 fun n member => Or.inl ?_)
  exact (getElem?_standardAlphabet n _).2 ⟨values_small bytes n member, rfl⟩

theorem Spells.trim {text : String} {ns : List Nat} (spells : Spells text ns) :
    Text.trim text = text := by
  rw [Text.trim, Bond.trimChars_solid fun c member => (spells.standsRaw c member).solid.2,
    String.ofList_toList]

end Base64Url

namespace Bond

open Base64Url (Spells values)

variable {bond : Bond} {bytes : List UInt8} {encoded : String}

theorem decode_of_spells (spells : Spells encoded (values bytes))
    (read : Bond.shape.readBytes bytes = .ok bond) : decode encoded = .ok bond := by
  have symbols : Base64Url.decode (normalSymbols encoded) = .ok bytes :=
    (decode_normal_iff encoded bytes).2 (spells.trim.symm ▸ spells)
  rw [decode, symbols]
  simp only [read]
  rfl

/-- The empty text is the spelling of no bytes, and these are no document. -/
theorem ne_empty_of_spells (spells : Spells encoded (values bytes))
    (read : Bond.shape.readBytes bytes = .ok bond) : encoded ≠ "" := by
  rintro rfl
  obtain ⟨symbols, pads, letters, stand, -⟩ := spells.letters
  have noSymbols : symbols = [] := (List.append_eq_nil_iff.1 letters.symm).1
  rw [noSymbols] at stand
  have noBytes : bytes = [] := Base64Url.eq_nil_of_values (List.forall₂_nil_left_iff.1 stand)
  rw [noBytes] at read
  cases read

/-- Every spelling of a bond is found in every link that carries it, whichever of its symbols are
escaped, whatever the other parameters and the fragment are and whatever blanks stand around the
link; and what is found is read as the bond.  The address has to be in order before a question
mark, as all are that are in order on their own and end neither with a user nor with a margin. -/
theorem shared_form_survives (spells : Spells encoded (values bytes))
    (read : Bond.shape.readBytes bytes = .ok bond) :
    (∀ (link : ProofLink) (before after : List Char), link.Carries encoded →
      (∀ c ∈ before, Text.isBlank c = true) → (∀ c ∈ after, Text.isBlank c = true) →
        ofLink (String.ofList (before ++ link.text ++ after)) = .ok encoded) ∧
    decode encoded = .ok bond ∧
    ∀ (address : List Char) (url : Url), Url.read (String.ofList address) = .ok url →
      (∀ c ∈ address, c ≠ '?' ∧ c ≠ '#') →
      (∀ last, address.getLast? = some last → Url.isMargin last = false ∧ last ≠ '@') →
        Url.Address address := by
  refine ⟨fun link before after carries blankBefore blankAfter => ?_, decode_of_spells spells read,
    fun address url accepted plain ends => Url.address_of_read accepted plain ends⟩
  exact carries.ofLink spells.standsRaw (ne_empty_of_spells spells read) blankBefore blankAfter

/-- A link with everything of a spelling escaped but the plus signs, behind other parameters and
before a second proof and a fragment. -/
def ProofLink.sample (form : String) : ProofLink where
  address := "https://x.org/verify-bond".toList
  earlier := ["lang=en".toList, [], "Proof=x".toList]
  name := "%70roof".toList
  value := Url.escapeChosen (· != '+') form.toList
  behind := "&proof=x#top".toList

theorem ProofLink.sample_carries {form : String} (raw : ∀ c ∈ form.toList, Url.StandsRaw c)
    (address : Url.Address (ProofLink.sample form).address) :
    (ProofLink.sample form).Carries form := by
  have letters : ∀ c ∈ ["lang=en".toList, [], "Proof=x".toList].flatten, c ≠ '&' ∧ c ≠ '#' :=
    Text.forall_mem_of_all (by decide)
  have others : ∀ piece ∈ ["lang=en".toList, [], "Proof=x".toList],
      (Url.formPair (Url.counted piece)).1 ≠ linkParameter := by decide +kernel
  have plain : ∀ c ∈ "%70roof".toList, c ≠ '&' ∧ c ≠ '#' ∧ c ≠ '=' :=
    Text.forall_mem_of_all (by decide)
  have named : Url.formDecode (Url.counted "%70roof".toList) = linkParameter := by decide +kernel
  exact
    { address, others, plain, named
      whole := fun piece member c inside => letters c (List.mem_flatten.2 ⟨piece, member, inside⟩)
      written := Url.written_escapeChosen _ fun c member => (raw c member).2.1
      ends := fun _ head => Or.inl (Option.some.inj head).symm }

theorem shared_form_survives_sample :
    let form := Base64Url.paddedForm (Text.utf8 (Bond.shape.render sample))
    let link := ProofLink.sample form
    link.Carries form ∧
      ofLink (String.ofList (" ".toList ++ link.text ++ "\n".toList)) = .ok form ∧
      decode form = .ok sample := by
  intro form link
  have spells := Base64Url.spells_paddedForm (Text.utf8 (Bond.shape.render sample))
  have within := (portable_iff _ _).1 (sample_portable.mono (Nat.le_succ 126))
  have read : Bond.shape.readBytes (Text.utf8 (Bond.shape.render sample)) = .ok sample := by
    rw [Shape.readBytes_utf8, Shape.read_render shape_sound within sample_settled]
  obtain ⟨found, decoded, addresses⟩ := shared_form_survives spells read
  have inOrder : Url.Address "https://x.org/verify-bond".toList := by
    refine addresses _ _ ((Url.read_eq_ok_iff _ _).2 ⟨_, _, rfl, by decide +kernel, rfl⟩)
      (Text.forall_mem_of_all (by decide)) fun last found => ?_
    have ends : "https://x.org/verify-bond".toList.getLast? = some 'd' := by decide
    rw [ends] at found
    rw [← Option.some.inj found]
    decide
  have carries := ProofLink.sample_carries spells.standsRaw inOrder
  exact ⟨carries, found link _ _ carries (Text.forall_mem_of_all (by decide))
    (Text.forall_mem_of_all (by decide)), decoded⟩

/-! ## An address that ends with a user -/

theorem read_bare_user (tail : List Char) :
    Url.read (Text.trim (String.ofList ("x://@".toList ++ '?' :: tail))) = .error .emptyHost := by
  have begins : ∀ c, ("x://@".toList.dropWhile Url.isMargin).head? = some c → c.isAlpha = true := by
    intro c head
    rw [← (Option.some.inj head : 'x' = c)]
    decide
  have noBlanks : ∀ c ∈ ([] : List Char), Text.isBlank c = true := by simp
  have whole := Url.countedChars_trim_query begins noBlanks tail
  have split : Url.splitScheme? (Url.counted ("x://@".toList.dropWhile Url.isMargin) ++
      '?' :: Url.counted (Url.trimmedEnd tail)) =
        some (['x'], "//@".toList ++ '?' :: Url.counted (Url.trimmedEnd tail)) := by
    rfl
  have refused : Url.checkRest .other ("//@".toList ++ '?' :: Url.counted (Url.trimmedEnd tail)) =
      .error .emptyHost := by
    rw [Url.checkRest_mark]
    decide
  rw [List.nil_append] at whole
  have unknown : Url.SchemeKind.ofScheme (String.ofList ['x']) = .other := by decide
  rw [Url.read, whole, split]
  simp only [unknown, refused]
  rfl

/-- An address that is in order on its own, behind which a bond that is read is not found. -/
theorem shared_behind_user_lost :
    (∃ url, Url.read "x://@" = .ok url) ∧ decode sample.encode = .ok sample ∧
      ofLink ("x://@" ++ "?proof=" ++ sample.encode) = .error (.badUrl .emptyHost) := by
  have accepted : ∃ url, Url.read "x://@" = .ok url :=
    ⟨_, (Url.read_eq_ok_iff _ _).2 ⟨_, _, rfl, by decide +kernel, rfl⟩⟩
  have text : "x://@" ++ "?proof=" ++ sample.encode =
      String.ofList ("x://@".toList ++ '?' :: ("proof=".toList ++ sample.encode.toList)) := by
    refine String.toList_inj.1 ?_
    simp
  refine ⟨accepted, decode_encode (sample_portable.mono (by decide)) sample_settled, ?_⟩
  rw [ofLink, text, read_bare_user]

end Bond

end HolderBond
