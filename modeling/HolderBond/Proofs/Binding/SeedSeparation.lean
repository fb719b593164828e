import HolderBond.Proofs.Bond.SameHolder

/-!
# Which inputs share a seed preimage

The three parts of a seed preimage are joined by colons that nothing marks off from colons
inside the parts.  Two different inputs are hashed as the same bytes exactly if one is the other
with the two joints at other colons.  Inputs that differ in one part only, and inputs whose
identifiers and scopes hold no colon, are always told apart.
-/

set_option autoImplicit false

namespace HolderBond

open Commitment (colon)

structure SeedInput where
  identifier : String
  walletSecret : List UInt8
  scope : String
  deriving DecidableEq

namespace SeedInput

def preimage (input : SeedInput) : List UInt8 :=
  HolderSeed.preimage input.identifier input.walletSecret input.scope

def seed (input : SeedInput) : HolderSeed :=
  HolderSeed.derive input.identifier input.walletSecret input.scope

/-- The second input is the first one with the joints at other colons: the first joint further
behind, the second further in front, or both further behind. -/
inductive Regrouped : SeedInput → SeedInput → Prop
  | intoIdentifier (identifier x : String) (secret : List UInt8) (scope : String) :
      Regrouped ⟨identifier, Text.utf8 x ++ colon :: secret, scope⟩
        ⟨identifier ++ ":" ++ x, secret, scope⟩
  | intoScope (identifier : String) (secret : List UInt8) (y scope : String) :
      Regrouped ⟨identifier, secret ++ colon :: Text.utf8 y, scope⟩
        ⟨identifier, secret, y ++ ":" ++ scope⟩
  | intoBoth (identifier x : String) (secret : List UInt8) (y scope : String) :
      Regrouped ⟨identifier, Text.utf8 x ++ colon :: secret ++ colon :: Text.utf8 y, scope⟩
        ⟨identifier ++ ":" ++ x, secret, y ++ ":" ++ scope⟩
  | across (identifier x : String) (secret secret' : List UInt8) (y scope : String)
      (overlap : secret ++ colon :: Text.utf8 y = Text.utf8 x ++ colon :: secret') :
      Regrouped ⟨identifier, secret, y ++ ":" ++ scope⟩
        ⟨identifier ++ ":" ++ x, secret', scope⟩

/-! ## Texts around a colon -/

theorem utf8_around_colon (s t : String) :
    Text.utf8 (s ++ ":" ++ t) = Text.utf8 s ++ colon :: Text.utf8 t := by
  simp only [Text.utf8, String.toList_append, Text.utf8Chars_append, List.append_assoc]
  rfl

theorem eq_around_colon {text : String} {front back : List UInt8}
    (split : Text.utf8 text = front ++ colon :: back) :
    ∃ s t, text = s ++ ":" ++ t ∧ front = Text.utf8 s ∧ back = Text.utf8 t := by
  obtain ⟨ds, es, chars, frontSame, backSame⟩ :=
    Text.utf8Chars_eq_append_cons ':' (by decide) split
  refine ⟨.ofList ds, .ofList es, String.toList_inj.1 ?_, ?_, ?_⟩
  · simp [chars]
  · rw [frontSame, Text.utf8, String.toList_ofList]
  · rw [backSame, Text.utf8, String.toList_ofList]

theorem eq_after_colon {text s : String} {back : List UInt8}
    (split : Text.utf8 text = Text.utf8 s ++ colon :: back) :
    ∃ t, text = s ++ ":" ++ t ∧ back = Text.utf8 t := by
  obtain ⟨s', t, whole, frontSame, backSame⟩ := eq_around_colon split
  exact ⟨t, by rw [whole, Text.utf8_injective frontSame], backSame⟩

theorem eq_before_colon {text t : String} {front : List UInt8}
    (split : Text.utf8 text = front ++ colon :: Text.utf8 t) :
    ∃ s, text = s ++ ":" ++ t ∧ front = Text.utf8 s := by
  obtain ⟨s, t', whole, frontSame, backSame⟩ := eq_around_colon split
  exact ⟨s, by rw [whole, Text.utf8_injective backSame], frontSame⟩

/-! ## Equal preimages -/

/-- Two lists around colons are the same ones, or a colon inside one of them is the other's. -/
theorem append_colon_eq_iff (front front' back back' : List UInt8) :
    front ++ colon :: back = front' ++ colon :: back' ↔
      (front = front' ∧ back = back') ∨
        (∃ middle, front' = front ++ colon :: middle ∧ back = middle ++ colon :: back') ∨
        (∃ middle, front = front' ++ colon :: middle ∧ back' = middle ++ colon :: back) := by
  constructor
  · intro same
    rcases List.append_eq_append_iff.1 same with
      ⟨middle, frontSame, backSame⟩ | ⟨middle, frontSame, backSame⟩
    · cases middle with
      | nil =>
          refine Or.inl ⟨by rw [frontSame, List.append_nil], ?_⟩
          exact (List.cons.inj backSame).2
      | cons b middle =>
          obtain ⟨here, rest⟩ := List.cons.inj backSame
          exact Or.inr (Or.inl ⟨middle, by rw [frontSame, here], rest⟩)
    · cases middle with
      | nil =>
          refine Or.inl ⟨by rw [frontSame, List.append_nil], ?_⟩
          exact (List.cons.inj backSame).2.symm
      | cons b middle =>
          obtain ⟨here, rest⟩ := List.cons.inj backSame
          exact Or.inr (Or.inr ⟨middle, by rw [frontSame, here], rest⟩)
  · rintro (⟨rfl, rfl⟩ | ⟨middle, rfl, rfl⟩ | ⟨middle, rfl, rfl⟩) <;> simp

theorem preimage_eq_iff (i j : SeedInput) :
    i.preimage = j.preimage ↔
      Text.utf8 i.identifier ++ colon :: (i.walletSecret ++ colon :: Text.utf8 i.scope) =
        Text.utf8 j.identifier ++ colon :: (j.walletSecret ++ colon :: Text.utf8 j.scope) := by
  simp [preimage, HolderSeed.preimage, HolderSeed.parts]

theorem regrouped_of_same_identifier {identifier : String} {secret secret' : List UInt8}
    {scope scope' : String}
    (same : secret ++ colon :: Text.utf8 scope = secret' ++ colon :: Text.utf8 scope') :
    (⟨identifier, secret, scope⟩ : SeedInput) = ⟨identifier, secret', scope'⟩ ∨
      Regrouped ⟨identifier, secret, scope⟩ ⟨identifier, secret', scope'⟩ ∨
      Regrouped ⟨identifier, secret', scope'⟩ ⟨identifier, secret, scope⟩ := by
  rcases (append_colon_eq_iff _ _ _ _).1 same with
    ⟨secrets, scopes⟩ | ⟨middle, longer, split⟩ | ⟨middle, longer, split⟩
  · left
    rw [secrets, Text.utf8_injective scopes]
  · obtain ⟨y, rfl, rfl⟩ := eq_before_colon split
    exact Or.inr (Or.inr (longer ▸ .intoScope identifier secret y scope'))
  · obtain ⟨y, rfl, rfl⟩ := eq_before_colon split
    exact Or.inr (Or.inl (longer ▸ .intoScope identifier secret' y scope))

theorem regrouped_of_longer_identifier {identifier x : String} {secret secret' : List UInt8}
    {scope scope' : String}
    (same : secret ++ colon :: Text.utf8 scope =
      Text.utf8 x ++ colon :: (secret' ++ colon :: Text.utf8 scope')) :
    Regrouped ⟨identifier, secret, scope⟩ ⟨identifier ++ ":" ++ x, secret', scope'⟩ := by
  have apart : secret ++ colon :: Text.utf8 scope =
      (Text.utf8 x ++ colon :: secret') ++ colon :: Text.utf8 scope' := by
    rw [same, List.append_assoc, List.cons_append]
  rcases (append_colon_eq_iff _ _ _ _).1 apart with
    ⟨secrets, scopes⟩ | ⟨middle, longer, split⟩ | ⟨middle, longer, split⟩
  · rw [secrets, Text.utf8_injective scopes]
    exact .intoIdentifier identifier x secret' scope'
  · obtain ⟨y, rfl, rfl⟩ := eq_before_colon split
    exact .across identifier x secret secret' y scope' longer.symm
  · obtain ⟨y, rfl, rfl⟩ := eq_before_colon split
    exact longer ▸ .intoBoth identifier x secret' y scope

theorem preimage_eq_of_regrouped {i j : SeedInput} (regrouped : Regrouped i j) :
    i.preimage = j.preimage := by
  rw [preimage_eq_iff]
  cases regrouped with
  | intoIdentifier identifier x secret scope => simp [utf8_around_colon]
  | intoScope identifier secret y scope => simp [utf8_around_colon]
  | intoBoth identifier x secret y scope => simp [utf8_around_colon]
  | across identifier x secret secret' y scope overlap =>
      have shifted := congrArg (· ++ colon :: Text.utf8 scope) overlap
      simp only [List.append_assoc, List.cons_append] at shifted
      simp only [utf8_around_colon, List.append_assoc, List.cons_append, shifted]

/-- The same bytes are hashed for inputs that are one input or regroup one another. -/
theorem preimage_eq_iff_regrouped (i j : SeedInput) :
    i.preimage = j.preimage ↔ i = j ∨ Regrouped i j ∨ Regrouped j i := by
  constructor
  · intro same
    obtain ⟨identifier, secret, scope⟩ := i
    obtain ⟨identifier', secret', scope'⟩ := j
    rcases (append_colon_eq_iff _ _ _ _).1 ((preimage_eq_iff _ _).1 same) with
      ⟨identifiers, rest⟩ | ⟨middle, longer, rest⟩ | ⟨middle, longer, rest⟩
    · obtain rfl := Text.utf8_injective identifiers
      exact regrouped_of_same_identifier rest
    · obtain ⟨x, rfl, rfl⟩ := eq_after_colon longer
      exact Or.inr (Or.inl (regrouped_of_longer_identifier rest))
    · obtain ⟨x, rfl, rfl⟩ := eq_after_colon longer
      exact Or.inr (Or.inr (regrouped_of_longer_identifier rest))
  · rintro (rfl | regrouped | regrouped)
    · rfl
    · exact preimage_eq_of_regrouped regrouped
    · exact (preimage_eq_of_regrouped regrouped).symm

/-! ## Inputs that are told apart -/

def AgreeInTwo (i j : SeedInput) : Prop :=
  (i.identifier = j.identifier ∧ i.walletSecret = j.walletSecret) ∨
    (i.identifier = j.identifier ∧ i.scope = j.scope) ∨
    (i.walletSecret = j.walletSecret ∧ i.scope = j.scope)

def Plain (input : SeedInput) : Prop :=
  ':' ∉ input.identifier.toList ∧ ':' ∉ input.scope.toList

/-- A part is what is left of the preimage when the two others are taken away. -/
theorem eq_of_agreeInTwo {i j : SeedInput} (agree : AgreeInTwo i j)
    (same : i.preimage = j.preimage) : i = j := by
  obtain ⟨identifier, secret, scope⟩ := i
  obtain ⟨identifier', secret', scope'⟩ := j
  rw [preimage_eq_iff] at same
  rcases agree with ⟨first, second⟩ | ⟨first, second⟩ | ⟨first, second⟩ <;>
    simp only at first second same <;> subst first <;> subst second
  · simp only [List.append_cancel_left_eq, List.cons.injEq, true_and] at same
    rw [Text.utf8_injective same]
  · simp only [List.append_cancel_left_eq, List.append_cancel_right_eq, List.cons.injEq,
      true_and] at same
    rw [same]
  · rw [List.append_cancel_right_eq] at same
    rw [Text.utf8_injective same]

theorem Regrouped.not_plain {i j : SeedInput} (regrouped : Regrouped i j) : ¬ Plain j := by
  rintro ⟨identifier, scope⟩
  cases regrouped <;> simp at identifier scope

/-- Inputs without a collision of their preimages have different seeds, unless they are
regroupings of one another. -/
theorem regrouped_or_collision {i j : SeedInput} (different : i ≠ j) (same : i.seed = j.seed) :
    Regrouped i j ∨ Regrouped j i ∨ Collision [(.blake3, i.preimage), (.blake3, j.preimage)] := by
  have digests : HashAlgorithm.blake3.digest i.preimage = HashAlgorithm.blake3.digest j.preimage :=
    congrArg HolderSeed.bytes same
  rcases eq_or_collision (List.mem_cons_self ..)
      (List.mem_cons_of_mem _ (List.mem_cons_self ..)) digests with preimages | collision
  · rcases (preimage_eq_iff_regrouped i j).1 preimages with equal | forth | back
    · exact absurd equal different
    · exact Or.inl forth
    · exact Or.inr (Or.inl back)
  · exact Or.inr (Or.inr collision)

/-- Different inputs are hashed as different bytes, except for those that regroup one another:
these always differ in two parts at least, and one of them has a colon in its identifier or its
scope.  All others have different seeds, up to a collision of the bytes hashed. -/
theorem seeds_separated (i j : SeedInput) (different : i ≠ j) :
    (i.preimage = j.preimage ↔ Regrouped i j ∨ Regrouped j i) ∧
      (AgreeInTwo i j → i.preimage ≠ j.preimage) ∧
      (Plain i → Plain j → i.preimage ≠ j.preimage) ∧
      (i.seed = j.seed → Regrouped i j ∨ Regrouped j i ∨
        Collision [(.blake3, i.preimage), (.blake3, j.preimage)]) := by
  refine ⟨?_, ?_, ?_, regrouped_or_collision different⟩
  · rw [preimage_eq_iff_regrouped]
    exact or_iff_right different
  · intro agree same
    exact different (eq_of_agreeInTwo agree same)
  · intro plain plain' same
    rcases (preimage_eq_iff_regrouped i j).1 same with equal | forth | back
    · exact different equal
    · exact forth.not_plain plain'
    · exact back.not_plain plain

theorem seeds_separated_sample :
    let input : SeedInput := ⟨"did:a:b", [99], "s"⟩
    let elsewhere : SeedInput := ⟨"did:a:b", [99], "t"⟩
    let regrouped : SeedInput := ⟨"did:a", [98, 58, 99], "s"⟩
    input ≠ elsewhere ∧ input.preimage ≠ elsewhere.preimage ∧
      regrouped ≠ input ∧ regrouped.preimage = input.preimage := by
  intro input elsewhere regrouped
  have scopes : input ≠ elsewhere := by decide
  have groups : regrouped ≠ input := by decide
  refine ⟨scopes, ?_, groups, ?_⟩
  · exact (seeds_separated input elsewhere scopes).2.1 (Or.inl ⟨rfl, rfl⟩)
  · exact (seeds_separated regrouped input groups).1.2
      (Or.inl (.intoIdentifier "did:a" "b" [99] "s"))

/-- A colon of the identifier may as well belong to the wallet secret: the seeds are the
same. -/
theorem colons_confused :
    let first : SeedInput := ⟨"a:b", Text.utf8 "c", "s"⟩
    let second : SeedInput := ⟨"a", Text.utf8 "b:c", "s"⟩
    first ≠ second ∧ first.preimage = second.preimage ∧ first.seed = second.seed := by
  intro first second
  have preimages : first.preimage = second.preimage := by decide
  refine ⟨by decide, preimages, ?_⟩
  exact congrArg (fun bytes => HolderSeed.mk (HashAlgorithm.blake3.digest bytes)) preimages

end SeedInput

end HolderBond
