import HolderBond.Bond.Transport
import HolderBond.Proofs.Byte.Base64Url
import HolderBond.Proofs.Shape.Documents

/-!
# Bonds survive their transport

Every bond that can be told from its document comes back from its transport form, if its numbers
are settled.  Every bond that comes out of a transport form can be told from its document, so
encoding it again gives a normal form of what was decoded, with the same reserve.
-/

set_option autoImplicit false

namespace HolderBond

/-! ## What the document of a bond loses -/

theorem SubProof.faithful_iff (proof : SubProof) :
    SubProof.shape.Faithful proof ↔ ∀ entry ∈ proof.extra.entries,
      entry.1 ∉ ["name", "version", "proof", "publicInputs", "vkeyHash", "index", "total"] := by
  simp [shape, Shape.Faithful, Fields.Faithful, Fields.keys, Shape.word]

theorem FundsInputs.faithful_iff (inputs : FundsInputs) :
    FundsInputs.shape.Faithful inputs ↔ ∀ entry ∈ inputs.extra.entries,
      entry.1 ∉ ["threshold_raw", "required_currency_code", "required_custodian_id",
        "current_epoch", "verifier_scope_id", "policy_id", "nullifier", "custodian_pubkey_hash",
        "snapshot_block_height", "snapshot_anchor_orchard"] := by
  simp [shape, Shape.Faithful, Fields.Faithful, Fields.keys, Shape.write, Shape.word, Shape.long,
    Shape.bytes]

theorem FundsBundle.faithful_iff (bundle : FundsBundle) :
    FundsBundle.shape.Faithful bundle ↔ FundsInputs.shape.Faithful bundle.publicInputs ∧
      ∀ entry ∈ bundle.extra.entries,
        entry.1 ∉ ["rail_id", "circuit_version", "proof", "public_inputs"] := by
  simp [shape, Shape.Faithful, Fields.Faithful, Fields.keys, Shape.word, Shape.bytes]

theorem FreeForm.tree_eq_null_iff (value : FreeForm) : value.tree = .null ↔ value = .null := by
  constructor
  · intro isNull
    rw [← FreeForm.ofTree_tree value, isNull]
    rfl
  · rintro rfl
    rfl

theorem IdentityBundle.faithful_iff (bundle : IdentityBundle) :
    IdentityBundle.shape.Faithful bundle ↔
      (∀ proof ∈ bundle.proofs, SubProof.shape.Faithful proof) ∧ bundle.policy ≠ some .null := by
  have present : (∀ x, bundle.policy = some x → ¬x = .null) ↔ ¬bundle.policy = some .null := by
    cases bundle.policy <;> simp
  simp [shape, Shape.Faithful, Fields.Faithful, Shape.write, FreeForm.tree_eq_null_iff, present]

theorem Disclosures.faithful (disclosures : Disclosures) : Disclosures.shape.Faithful disclosures := by
  simp [shape, Shape.Faithful, Fields.Faithful, Shape.write, Shape.word]

theorem IdentityPart.faithful_iff (part : IdentityPart) :
    IdentityPart.shape.Faithful part ↔ IdentityBundle.shape.Faithful part.bundle := by
  simp [shape, Shape.Faithful, Fields.Faithful, Shape.write, Disclosures.faithful, Bytes32.shape]

theorem BalanceSnapshot.faithful (snapshot : BalanceSnapshot) :
    BalanceSnapshot.shape.Faithful snapshot := by
  simp [shape, Shape.Faithful, Fields.Faithful, Shape.write, Shape.long]

theorem BalanceSnapshot.write_ne_null (snapshot : BalanceSnapshot) :
    BalanceSnapshot.shape.write snapshot ≠ .null := by
  simp [shape, Shape.write]

theorem FundsPart.faithful_iff (part : FundsPart) :
    FundsPart.shape.Faithful part ↔ FundsBundle.shape.Faithful part.bundle := by
  simp [shape, Shape.Faithful, Fields.Faithful, Bytes32.shape, PolicySnapshot.shape,
    BalanceSnapshot.faithful, BalanceSnapshot.write_ne_null, Shape.long, Shape.word]

namespace Bond

theorem faithful_iff (bond : Bond) :
    Bond.shape.Faithful bond ↔ IdentityBundle.shape.Faithful bond.identity.bundle ∧
      FundsBundle.shape.Faithful bond.funds.bundle := by
  simp [shape, Shape.Faithful, Fields.Faithful, Shape.write, HolderBinding.shape, Bytes32.shape,
    IdentityPart.faithful_iff, FundsPart.faithful_iff, Metadata.shape, Shape.long]

theorem shape_sound : Bond.shape.Sound := by
  simp [shape, Shape.Sound, Fields.Sound, Fields.keys, HolderBinding.shape, IdentityPart.shape,
    IdentityBundle.shape, SubProof.shape, Disclosures.shape, FundsPart.shape, FundsBundle.shape,
    FundsInputs.shape, PolicySnapshot.shape, BalanceSnapshot.shape, Metadata.shape, Bytes32.shape,
    Shape.word, Shape.long, Shape.bytes, Shape.Faithful]

theorem floor_shape : Bond.shape.floor = 6 := by
  rfl

/-- A bond that can be told from its document: no member that is kept has the name of a known
field beside it, no policy is a null that is there, and the document is not too deep. -/
structure Portable (most : Nat) (bond : Bond) : Prop where
  funds : ∀ entry ∈ bond.funds.bundle.extra.entries,
    entry.1 ∉ ["rail_id", "circuit_version", "proof", "public_inputs"]
  inputs : ∀ entry ∈ bond.funds.bundle.publicInputs.extra.entries,
    entry.1 ∉ ["threshold_raw", "required_currency_code", "required_custodian_id",
      "current_epoch", "verifier_scope_id", "policy_id", "nullifier", "custodian_pubkey_hash",
      "snapshot_block_height", "snapshot_anchor_orchard"]
  subProofs : ∀ proof ∈ bond.identity.bundle.proofs, ∀ entry ∈ proof.extra.entries,
    entry.1 ∉ ["name", "version", "proof", "publicInputs", "vkeyHash", "index", "total"]
  policy : bond.identity.bundle.policy ≠ some .null
  levels : (Bond.shape.write bond).levels ≤ most

theorem Portable.mono {most more : Nat} {bond : Bond} (portable : bond.Portable most)
    (le : most ≤ more) : bond.Portable more :=
  { portable with levels := Nat.le_trans portable.levels le }

/-- These are the bonds that are written within so many levels without a loss. -/
theorem portable_iff (most : Nat) (bond : Bond) :
    bond.Portable most ↔ Bond.shape.Within most bond := by
  constructor
  · intro portable
    refine ⟨(faithful_iff bond).2 ⟨?_, ?_⟩, portable.levels⟩
    · refine (IdentityBundle.faithful_iff _).2 ⟨fun proof member => ?_, portable.policy⟩
      exact (SubProof.faithful_iff proof).2 (portable.subProofs proof member)
    · exact (FundsBundle.faithful_iff _).2
        ⟨(FundsInputs.faithful_iff _).2 portable.inputs, portable.funds⟩
  · rintro ⟨faithful, levels⟩
    obtain ⟨identity, funds⟩ := (faithful_iff bond).1 faithful
    obtain ⟨proofs, policy⟩ := (IdentityBundle.faithful_iff _).1 identity
    obtain ⟨inputs, extra⟩ := (FundsBundle.faithful_iff _).1 funds
    exact
      { funds := extra
        inputs := (FundsInputs.faithful_iff _).1 inputs
        subProofs := fun proof member => (SubProof.faithful_iff proof).1 (proofs proof member)
        policy := policy
        levels := levels }

/-- A bond all of whose numbers are read back from their own text. -/
def Settled (bond : Bond) : Prop :=
  (Bond.shape.write bond).Settled

instance : DecidablePred Settled := fun bond =>
  inferInstanceAs (Decidable (Bond.shape.write bond).Settled)

theorem settled_iff_floats (bond : Bond) :
    bond.Settled ↔
      ∀ x, .float x ∈ (Bond.shape.write bond).numbers → (JsonNumber.float x).Settled :=
  Json.settled_iff_floats _

/-! ## Transport forms -/

theorem trimChars_solid {cs : List Char} (solid : ∀ c ∈ cs, Text.isBlank c = false) :
    Text.trimChars cs = cs := by
  have drop : ∀ ds : List Char, (∀ d ∈ ds, Text.isBlank d = false) →
      ds.dropWhile Text.isBlank = ds := by
    intro ds solid
    cases ds with
    | nil => rfl
    | cons d ds => rw [List.dropWhile_cons, solid d List.mem_cons_self, if_neg Bool.false_ne_true]
  have backwards : ∀ c ∈ cs.reverse, Text.isBlank c = false := fun c member =>
    solid c (List.mem_reverse.1 member)
  rw [Text.trimChars, Text.dropTrailing, drop cs solid, drop _ backwards, List.reverse_reverse]

theorem normalSymbols_of_symbols {text : String}
    (symbols : ∀ c ∈ text.toList, ∃ n < 64, c = Base64Url.symbol n) :
    normalSymbols text = text := by
  have solid : ∀ c ∈ text.toList, Text.isBlank c = false := by
    intro c member
    obtain ⟨n, small, rfl⟩ := symbols c member
    exact Base64Url.symbol_not_blank small
  have kept : ∀ c ∈ text.toList, urlSymbol c = c := by
    intro c member
    obtain ⟨n, small, rfl⟩ := symbols c member
    obtain ⟨noPlus, noSlash⟩ := Base64Url.symbol_not_standard small
    simp [urlSymbol, noPlus, noSlash]
  rw [normalSymbols, trimChars_solid solid, List.map_congr_left kept, List.map_id',
    String.ofList_toList]

theorem normalSymbols_encode (bytes : List UInt8) :
    normalSymbols (Base64Url.encode bytes) = Base64Url.encode bytes :=
  normalSymbols_of_symbols (Base64Url.encode_all (fun n small => ⟨n, small, rfl⟩) bytes)

theorem decode_encode_eq (bond : Bond) :
    decode bond.encode = (Bond.shape.read (Bond.shape.render bond)).mapError .serialization := by
  rw [decode, encode, normalSymbols_encode, Base64Url.decode_encode]
  dsimp only
  rw [Shape.readBytes_utf8]

theorem decode_encode {bond : Bond} (portable : bond.Portable Json.maxLevels)
    (settled : bond.Settled) : decode bond.encode = .ok bond := by
  have back := Shape.read_render shape_sound ((portable_iff _ _).1 portable) settled
  rw [decode_encode_eq, back]
  rfl

/-- A bond is read from the text of another if the other's numbers become its own. -/
theorem read_render_of_reread? {bond other : Bond} (portable : other.Portable Json.maxLevels)
    (back : (Bond.shape.write bond).reread? = some (Bond.shape.write other)) :
    Bond.shape.read (Bond.shape.render bond) = .ok other := by
  obtain ⟨faithful, small⟩ := (portable_iff _ _).1 portable
  rw [Json.levels_of_reread? _ back] at small
  exact Shape.read_tree back small (Bond.shape.ofTree_write shape_sound other faithful)

theorem portable_of_readGlyphs {input : Json.Input} {bond : Bond}
    (read : Bond.shape.readGlyphs input = .ok bond) : bond.Portable Json.maxLevels := by
  -- Fields that were absent are written out too, which takes the levels of the floor.
  have room : Bond.shape.floor ≤ Json.maxLevels := by
    rw [floor_shape]
    decide
  exact (portable_iff _ _).2 (Shape.within_of_readGlyphs shape_sound room read)

theorem portable_of_decode {encoded : String} {bond : Bond} (decoded : decode encoded = .ok bond) :
    bond.Portable Json.maxLevels := by
  unfold decode at decoded
  split at decoded
  · cases decoded
  · next bytes got =>
      cases read : Bond.shape.readBytes bytes with
      | error cause =>
          rw [read] at decoded
          cases decoded
      | ok found =>
          rw [read] at decoded
          cases decoded
          exact portable_of_readGlyphs read

def reencode (encoded : String) : Except StoreError String :=
  encode <$> decode encoded

theorem reencode_eq_ok_iff {encoded normal : String} :
    reencode encoded = .ok normal ↔ ∃ bond, decode encoded = .ok bond ∧ bond.encode = normal := by
  unfold reencode
  cases decode encoded with
  | error e => simp [Functor.map, Except.map]
  | ok bond => simp [Functor.map, Except.map]

/-- Settled bonds come back from their transport forms and from their texts.  Whatever comes out
of a transport form can be told from its document, so if it is settled it comes out again, and its
own transport form is a normal form. -/
theorem transport_round_trip :
    (∀ bond : Bond, bond.Portable 127 → bond.Settled →
      decode bond.encode = .ok bond ∧ Bond.shape.read (Bond.shape.render bond) = .ok bond ∧
        Bond.shape.read (Bond.shape.pretty bond) = .ok bond) ∧
    ∀ encoded bond, decode encoded = .ok bond →
      bond.Portable 127 ∧ (bond.Settled → decode bond.encode = decode encoded ∧
        ∀ normal, reencode encoded = .ok normal → reencode normal = .ok normal) := by
  refine ⟨fun bond portable settled => ?_, fun encoded bond decoded => ?_⟩
  · have within := (portable_iff _ _).1 portable
    exact ⟨decode_encode portable settled, Shape.read_render shape_sound within settled,
      Shape.read_pretty shape_sound within settled⟩
  · have portable := portable_of_decode decoded
    refine ⟨portable, fun settled => ?_⟩
    have back := decode_encode portable settled
    refine ⟨back.trans decoded.symm, fun normal made => ?_⟩
    obtain ⟨found, foundDecoded, rfl⟩ := reencode_eq_ok_iff.1 made
    cases decoded.symm.trans foundDecoded
    exact reencode_eq_ok_iff.2 ⟨bond, back, rfl⟩

def sample : Bond where
  version := currentVersion
  id := "bond-1"
  timestamp := 1700000000000
  binding := ⟨.zero, .zero, 42, 1700000000⟩
  identity :=
    { bundle :=
        { proofId := "proof-1", uniqueIdentifier := none
          proofs := [⟨"compare_age", "0.2", "abcd", ["0x01"], "0xvk", 0, 1,
            .ofEntries [("circuit", .string "age")]⟩]
          queryResult := .ofTree (.object [("gender", .string "F"), ("age", .null)])
          requestId := "req-1", policy := some (.ofTree (.array [.bool true])) }
      commitment := .zero, uniqueIdentifier := none, disclosures := .none }
  funds :=
    { bundle :=
        { railId := "", circuitVersion := 3, proof := [0xAA]
          publicInputs := ⟨1000, 5915971, none, 0, 42, 7, [1, 2, 3], none, none, none,
            .ofEntries [("memo", .null)]⟩
          extra := .ofEntries [("signature", .string "0x02")] }
      commitment := .zero
      policy := ⟨7, 1000, "ZEC", 5915971, "CUSTODIAL_ATTESTATION", 42⟩
      thresholdMet := true, balance := some ⟨none, none⟩ }
  metadata := ⟨"onboarding", "s1", 1700086400, none, some "first bond", none⟩

theorem sample_portable : sample.Portable 126 where
  funds := by decide
  inputs := by decide
  subProofs := by decide
  policy := by decide
  levels := by decide

theorem sample_settled : sample.Settled := by
  decide

theorem transport_round_trip_sample :
    (decode sample.encode = .ok sample ∧ Bond.shape.read (Bond.shape.render sample) = .ok sample ∧
      Bond.shape.read (Bond.shape.pretty sample) = .ok sample) ∧
    sample.Portable 127 ∧ reencode sample.encode = .ok sample.encode := by
  have back := transport_round_trip.1 sample (sample_portable.mono (by decide)) sample_settled
  obtain ⟨portable, again⟩ := transport_round_trip.2 sample.encode sample back.1
  have made : reencode sample.encode = .ok sample.encode :=
    reencode_eq_ok_iff.2 ⟨sample, back.1, rfl⟩
  exact ⟨back, portable, (again sample_settled).2 _ made⟩

/-! ## A bond that is not settled -/

def measured (x : Binary64) : Bond :=
  { sample with
    identity :=
      { sample.identity with
        bundle :=
          { sample.identity.bundle with
            queryResult := .ofTree (.object [("x", .number (.float x))]) } } }

theorem measured_portable (x : Binary64) : (measured x).Portable 126 where
  funds := sample_portable.funds
  inputs := sample_portable.inputs
  subProofs := sample_portable.subProofs
  policy := sample_portable.policy
  levels := Nat.le_of_ble_eq_true rfl

/-- Two neighbours of which each is read from the text of the other: `9.660548300705e-11` and
`9.660548300705001e-11`. -/
def lowTwin : Binary64 :=
  ⟨false, 989, 0xa8e01ab497b43⟩

def highTwin : Binary64 :=
  ⟨false, 989, 0xa8e01ab497b44⟩

theorem reread?_lowTwin : (Bond.shape.write (measured lowTwin)).reread? =
    some (Bond.shape.write (measured highTwin)) := by
  decide +kernel

theorem reread?_highTwin : (Bond.shape.write (measured highTwin)).reread? =
    some (Bond.shape.write (measured lowTwin)) := by
  decide +kernel

theorem twins_differ : measured highTwin ≠ measured lowTwin := by
  decide

end Bond

end HolderBond
