import HolderBond.Proofs.Bond.Creation
import HolderBond.Proofs.Bond.QueriedFields
import HolderBond.Proofs.Bond.Transport
import HolderBond.Proofs.Shape.Levels

/-!
# Which of the bonds that are made can be transported

A bond holds its two bundles two levels deeper than their own documents do, and readers stop at
the same depth everywhere.  So a bundle that could just be read makes a bond that cannot: a bond
with settled numbers comes back from its transport form, and from the text that is written for
it, exactly if two levels are left in either bundle.  What is disclosed never goes deeper than the
bundle that it was taken from.
-/

set_option autoImplicit false

namespace HolderBond

/-! ## Levels of the parts -/

theorem IdentityPart.levels_eq (part : IdentityPart) :
    IdentityPart.shape.levels part =
      max (IdentityBundle.shape.levels part.bundle) (Disclosures.shape.levels part.disclosures) +
        1 := by
  simp [shape, Bytes32.shape]

theorem PolicySnapshot.levels_eq (snapshot : PolicySnapshot) :
    PolicySnapshot.shape.levels snapshot = 1 := by
  simp [shape, Shape.long, Shape.word]

theorem BalanceSnapshot.levels_eq (snapshot : BalanceSnapshot) :
    BalanceSnapshot.shape.levels snapshot = 1 := by
  simp [shape, Shape.long]

theorem FundsBundle.levels_pos (bundle : FundsBundle) : 0 < FundsBundle.shape.levels bundle := by
  rw [shape, Shape.levels_via]
  exact Shape.levels_extended_pos _ _ _

theorem FundsPart.levels_eq (part : FundsPart) :
    FundsPart.shape.levels part = FundsBundle.shape.levels part.bundle + 1 := by
  have bundle := part.bundle.levels_pos
  have balance := Shape.levels_optional_le
    (fun snapshot => Nat.le_of_eq (BalanceSnapshot.levels_eq snapshot)) part.balance
  simp only [shape, Bytes32.shape, Shape.levels_via, Shape.levels_record, Fields.levels_field,
    Fields.levels_optional, Fields.levels_nil, Shape.levels_written, Shape.levels_flag,
    PolicySnapshot.levels_eq]
  omega

/-- The bundles stand two levels deep, and nothing but what is disclosed may be as deep. -/
theorem Bond.levels_eq (bond : Bond) :
    Bond.shape.levels bond =
      max (max (IdentityBundle.shape.levels bond.identity.bundle)
        (Disclosures.shape.levels bond.identity.disclosures))
        (FundsBundle.shape.levels bond.funds.bundle) + 2 := by
  have whole : Bond.shape.levels bond =
      max (IdentityPart.shape.levels bond.identity) (FundsPart.shape.levels bond.funds) + 1 := by
    have identity := IdentityPart.levels_eq bond.identity
    simp [shape, Bytes32.shape, HolderBinding.shape, Metadata.shape, Shape.long]
    omega
  rw [whole, IdentityPart.levels_eq, FundsPart.levels_eq, Nat.add_max_add_right]

/-! ## Disclosed facts -/

namespace Disclosures

theorem levels_le (disclosures : Disclosures) :
    Disclosures.shape.levels disclosures ≤
      Json.membersLevels disclosures.custom.entries + 2 := by
  simp only [shape, Shape.levels_via, Shape.levels_record, Shape.word, Fields.levels_optional,
    Fields.levels_cons, Fields.levels_nil, Shape.levels_optional_text, Shape.levels_optional_flag,
    Shape.levels_optional_natural, Shape.levels_members]
  split <;> omega

theorem levels_ofQuery_le (result : FreeForm) :
    Disclosures.shape.levels (ofQuery result) ≤ result.tree.levels + 1 := by
  have flat : Disclosures.shape.levels none = 1 := by rfl
  unfold ofQuery
  split
  · next entries found =>
      have others : Json.membersLevels (sortOut entries).2 ≤ Json.membersLevels entries := by
        rw [Json.membersLevels_le_iff]
        intro entry member
        exact Json.membersLevels_le_iff.1 (Nat.le_refl _) entry
          ((sublist_sortOut entries).subset member)
      have sorted := Json.membersLevels_sortMembers_le (sortOut entries).2
      rw [found, Json.levels]
      refine Nat.le_trans (levels_le _) (Nat.add_le_add_right ?_ 2)
      exact Nat.le_trans sorted others
  · omega

end Disclosures

theorem IdentityBundle.levels_query_lt (bundle : IdentityBundle) :
    bundle.queryResult.tree.levels < IdentityBundle.shape.levels bundle := by
  simp only [shape, Shape.levels_via, Shape.levels_record, Fields.levels_field,
    Fields.levels_fieldOr, Fields.levels_optional, Shape.levels_value]
  omega

/-! ## Documents that were read -/

theorem IdentityBundle.shape_sound : IdentityBundle.shape.Sound := by
  simp [shape, SubProof.shape, Shape.Sound, Fields.Sound, Fields.keys, Shape.word, Shape.Faithful]

theorem FundsBundle.shape_sound : FundsBundle.shape.Sound := by
  simp [shape, FundsInputs.shape, Shape.Sound, Fields.Sound, Fields.keys, Shape.word, Shape.long,
    Shape.bytes, Shape.Faithful]

theorem IdentityBundle.faithful_of_read {text : String} {bundle : IdentityBundle}
    (read : IdentityBundle.shape.read text = .ok bundle) : IdentityBundle.shape.Faithful bundle :=
  (Shape.within_of_readGlyphs shape_sound (by decide) read).1

theorem FundsBundle.faithful_of_read {text : String} {bundle : FundsBundle}
    (read : FundsBundle.shape.read text = .ok bundle) : FundsBundle.shape.Faithful bundle :=
  (Shape.within_of_readGlyphs shape_sound (by decide) read).1

namespace BondRequest

variable {request : BondRequest} {params : BindingParams} {now : Instant} {suffix : UInt32}

/-- Both bundles leave room for the two levels that a bond puts around them. -/
def LeavesRoom (request : BondRequest) : Prop :=
  IdentityBundle.shape.levels request.identity ≤ 125 ∧ FundsBundle.shape.levels request.funds ≤ 125

theorem levels_bond (request : BondRequest) (params : BindingParams) (now : Instant)
    (suffix : UInt32) :
    Bond.shape.levels (request.bond params now suffix) =
      max (IdentityBundle.shape.levels request.identity)
        (FundsBundle.shape.levels request.funds) + 2 := by
  have query := request.identity.levels_query_lt
  have disclosed := Disclosures.levels_ofQuery_le request.identity.queryResult
  have covered : max (IdentityBundle.shape.levels request.identity)
      (Disclosures.shape.levels (Disclosures.ofQuery request.identity.queryResult)) =
      IdentityBundle.shape.levels request.identity := by omega
  rw [Bond.levels_eq]
  exact congrArg (max · (FundsBundle.shape.levels request.funds) + 2) covered

theorem bond_portable_iff (identity : IdentityBundle.shape.Faithful request.identity)
    (funds : FundsBundle.shape.Faithful request.funds) :
    (request.bond params now suffix).Portable 127 ↔ request.LeavesRoom := by
  have faithful : Bond.shape.Faithful (request.bond params now suffix) :=
    (Bond.faithful_iff _).2 ⟨identity, funds⟩
  have levels := request.levels_bond params now suffix
  have within : (request.bond params now suffix).Portable 127 ↔
      Bond.shape.levels (request.bond params now suffix) ≤ 127 :=
    (Bond.portable_iff _ _).trans ⟨And.right, fun small => ⟨faithful, small⟩⟩
  rw [within, levels, LeavesRoom]
  omega

end BondRequest

/-! ## Deep query results -/

def Json.nested : Nat → Json
  | 0 => .null
  | n + 1 => .array [nested n]

namespace BondRequest

def asking (result : Json) : BondRequest :=
  { sample with identity := { sample.identity with queryResult := .ofTree result } }

theorem read_identity_asking {result : Json}
    (small : IdentityBundle.shape.levels (asking result).identity ≤ 127)
    (settled : (IdentityBundle.shape.write (asking result).identity).Settled) :
    IdentityBundle.shape.read (IdentityBundle.shape.render (asking result).identity) =
      .ok (asking result).identity := by
  refine Shape.read_render IdentityBundle.shape_sound ⟨?_, small⟩ settled
  rw [IdentityBundle.faithful_iff]
  constructor
  · intro proof member
    cases List.mem_singleton.1 member
    exact (SubProof.faithful_iff _).2 (by decide)
  · intro present
    cases present

theorem read_funds_sample :
    FundsBundle.shape.read (FundsBundle.shape.render sample.funds) = .ok sample.funds := by
  refine Shape.read_render FundsBundle.shape_sound ⟨?_, by decide⟩ (by decide)
  exact (FundsBundle.faithful_iff _).2 ⟨(FundsInputs.faithful_iff _).2 (by decide), by decide⟩

theorem read_policy_sample :
    BondPolicy.shape.read (BondPolicy.shape.render sample.policy) = .ok sample.policy := by
  refine Shape.read_render ?_ ⟨?_, by decide⟩ (by decide)
  · simp [BondPolicy.shape, FundsPolicy.shape, Shape.Sound, Fields.Sound, Fields.keys, Shape.word,
      Shape.long, Shape.Faithful]
  · simp [BondPolicy.shape, FundsPolicy.shape, Shape.Faithful, Fields.Faithful, Shape.write,
      Shape.word, Shape.long]

end BondRequest

/-! ## Bonds that were made -/

/-- A bond that is made from bundles that were read comes back from its transport form, or from
the text that is written for it, only if both bundles leave room for two more levels.  If they do
and its numbers are settled, it comes back from both. -/
theorem created_transport {identityText fundsText : String} {request : BondRequest}
    {params : BindingParams} {now : Instant} {suffix : UInt32} {creation : Creation}
    (identity : IdentityBundle.shape.read identityText = .ok request.identity)
    (funds : FundsBundle.shape.read fundsText = .ok request.funds)
    (made : request.create params now suffix = .ok creation) :
    (Bond.decode creation.bond.encode = .ok creation.bond ∨
        Bond.shape.read (Bond.shape.pretty creation.bond) = .ok creation.bond →
      request.LeavesRoom) ∧
    (creation.bond.Settled → request.LeavesRoom →
      Bond.decode creation.bond.encode = .ok creation.bond ∧
        Bond.shape.read (Bond.shape.pretty creation.bond) = .ok creation.bond) := by
  have portable : creation.bond.Portable 127 ↔ request.LeavesRoom := by
    rw [BondRequest.bond_of_create made]
    exact BondRequest.bond_portable_iff (IdentityBundle.faithful_of_read identity)
      (FundsBundle.faithful_of_read funds)
  refine ⟨fun back => portable.1 ?_, fun settled room => ?_⟩
  · rcases back with decoded | read
    · exact Bond.portable_of_decode decoded
    · exact Bond.portable_of_readGlyphs read
  · have within := (Bond.portable_iff _ _).1 (portable.2 room)
    exact ⟨Bond.decode_encode (portable.2 room) settled,
      Shape.read_pretty Bond.shape_sound within settled⟩

theorem created_transport_sample :
    let request := BondRequest.asking (.object [("gender", Json.nested 123)])
    let bond := request.bond .v1 .start 0
    Bond.decode bond.encode = .ok bond ∧ Bond.shape.read (Bond.shape.pretty bond) = .ok bond := by
  intro request bond
  have room : request.LeavesRoom := by
    constructor <;> decide +kernel
  -- The numbers alone are looked at, for the texts are digests that would have to be computed.
  have settled : bond.Settled := (Json.settled_iff_numbers _).2 (by decide +kernel)
  have made : request.create .v1 .start 0 = .ok ⟨bond, request.warnings⟩ := rfl
  obtain ⟨-, back⟩ := created_transport
    (BondRequest.read_identity_asking (Nat.le_trans room.1 (by decide)) (by decide +kernel))
    BondRequest.read_funds_sample made
  exact back settled room

/-- With one level more in the query result, every document can still be read and the bond is
made, but neither its transport form nor the text written for it is read as the bond. -/
theorem made_but_lost :
    let request := BondRequest.asking (.object [("gender", Json.nested 124)])
    let bond := request.bond .v1 .start 0
    BondPolicy.shape.read (BondPolicy.shape.render request.policy) = .ok request.policy ∧
      IdentityBundle.shape.read (IdentityBundle.shape.render request.identity) =
        .ok request.identity ∧
      FundsBundle.shape.read (FundsBundle.shape.render request.funds) = .ok request.funds ∧
      request.create .v1 .start 0 = .ok ⟨bond, request.warnings⟩ ∧
      Bond.decode bond.encode ≠ .ok bond ∧ Bond.shape.read (Bond.shape.pretty bond) ≠ .ok bond := by
  intro request bond
  have tooDeep : ¬ bond.Portable 127 := by
    intro portable
    have levels : Bond.shape.levels bond ≤ 127 := portable.levels
    rw [BondRequest.levels_bond] at levels
    have deep : IdentityBundle.shape.levels request.identity = 126 := by decide +kernel
    omega
  refine ⟨BondRequest.read_policy_sample,
    BondRequest.read_identity_asking (by decide +kernel) (by decide +kernel),
    BondRequest.read_funds_sample, rfl, ?_, ?_⟩
  · exact fun back => tooDeep (Bond.portable_of_decode back)
  · exact fun back => tooDeep (Bond.portable_of_readGlyphs back)

end HolderBond
