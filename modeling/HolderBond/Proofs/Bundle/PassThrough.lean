import HolderBond.Proofs.Bond.CreatedTransport
import HolderBond.Proofs.Shape.Passing

/-!
# What becomes of the documents that are handed on

Funds bundles and sub-proofs are written again as they were read, with every member that nothing
here interprets, at every level.  What is left out or filled in is listed below.  An identity
bundle keeps its sub-proofs in the same way, but has no place for unknown members of its own.
-/

set_option autoImplicit false

namespace HolderBond

open HolderBond.Json (latest leaveOut adapt supply restrict onMembers onItems)
open Fields

/-! ## Declared members and what becomes of them -/

def FundsInputs.names : List String :=
  ["threshold_raw", "required_currency_code", "required_custodian_id", "current_epoch",
    "verifier_scope_id", "policy_id", "nullifier", "custodian_pubkey_hash",
    "snapshot_block_height", "snapshot_anchor_orchard"]

def FundsBundle.names : List String :=
  ["rail_id", "circuit_version", "proof", "public_inputs"]

def SubProof.names : List String :=
  ["name", "version", "proof", "publicInputs", "vkeyHash", "index", "total"]

def IdentityBundle.names : List String :=
  ["proofId", "uniqueIdentifier", "proofs", "queryResult", "requestId", "policy"]

/-- What becomes of public inputs: optional members that are null are left out. -/
def FundsInputs.passedOn : Json → Json :=
  onMembers (leaveOut [("required_custodian_id", .null), ("custodian_pubkey_hash", .null),
    ("snapshot_block_height", .null), ("snapshot_anchor_orchard", .null)])

def FundsBundle.passedOn : Json → Json :=
  onMembers fun ms =>
    adapt "public_inputs" FundsInputs.passedOn (leaveOut [("rail_id", .string "")] ms)

def SubProof.passedOn : Json → Json :=
  onMembers (supply "publicInputs" (.array []))

/-! ## Their texts can be read as values -/

theorem Shape.retains_word : Shape.word.Retains :=
  Shape.retains_natural _

theorem Shape.retains_long : Shape.long.Retains :=
  Shape.retains_natural _

theorem Shape.retains_bytes : Shape.bytes.Retains :=
  Shape.retains_list (Shape.retains_natural _)

open Shape in
theorem FundsInputs.shape_retains : FundsInputs.shape.Retains := by
  refine retains_via (retains_extended ?_) _
  exact retains_cons retains_long <| retains_cons retains_word <|
    retains_cons (Shape.retains_optional retains_word) <| retains_cons retains_long <|
    retains_cons retains_long <| retains_cons retains_long <| retains_cons retains_bytes <|
    retains_cons (Shape.retains_optional retains_bytes) <|
    retains_cons (Shape.retains_optional retains_long) <|
    retains_cons (Shape.retains_optional retains_bytes) retains_nil

open Shape in
theorem FundsBundle.shape_retains : FundsBundle.shape.Retains := by
  refine retains_via (retains_extended ?_) _
  exact retains_cons retains_text <| retains_cons retains_word <| retains_cons retains_bytes <|
    retains_cons FundsInputs.shape_retains retains_nil

open Shape in
theorem SubProof.shape_retains : SubProof.shape.Retains := by
  refine retains_via (retains_extended ?_) _
  exact retains_cons retains_text <| retains_cons retains_text <| retains_cons retains_text <|
    retains_cons (Shape.retains_list retains_text) <| retains_cons retains_text <|
    retains_cons retains_word <| retains_cons retains_word retains_nil

/-! ## Level by level -/

theorem FundsInputs.shape_sound : FundsInputs.shape.Sound := by
  simp [shape, Shape.Sound, Fields.Sound, Fields.keys, Shape.word, Shape.long, Shape.bytes]

theorem SubProof.shape_sound : SubProof.shape.Sound := by
  simp [shape, Shape.Sound, Fields.Sound, Fields.keys, Shape.word, Shape.Faithful]

theorem Shape.passesOn_word : Shape.word.PassesOn id :=
  Shape.passesOn_natural _

theorem Shape.passesOn_long : Shape.long.PassesOn id :=
  Shape.passesOn_natural _

theorem Shape.passesOn_bytes : Shape.bytes.PassesOn id :=
  Shape.passesOn_list_id (Shape.passesOn_natural _)

theorem FundsInputs.shape_passesOn : FundsInputs.shape.PassesOn FundsInputs.passedOn := by
  refine Shape.passesOn_via (Shape.passesOn_extended FundsInputs.shape_sound ?_ ?_) _
  · have word := Shape.passesOn_word
    have long := Shape.passesOn_long
    have bytes := Shape.passesOn_bytes
    -- Field by field in their order; what is left of each is what the edit does to its key.
    refine passesOn_field long ?_ <| passesOn_field word ?_ <| Fields.passesOn_optional word ?_ <|
      passesOn_field long ?_ <| passesOn_field long ?_ <| passesOn_field long ?_ <|
      passesOn_field bytes ?_ <| Fields.passesOn_optional bytes ?_ <|
      Fields.passesOn_optional long ?_ <| Fields.passesOn_optional bytes ?_ trivial
    all_goals
      intro ms distinct
      simp [Json.latest_leaveOut _ distinct]
  · intro key other ms distinct
    have other : key ∉ FundsInputs.names := other
    simp only [FundsInputs.names, List.mem_cons, List.not_mem_nil, or_false, not_or] at other
    simp [Json.latest_leaveOut _ distinct, other]

theorem FundsBundle.shape_passesOn : FundsBundle.shape.PassesOn FundsBundle.passedOn := by
  refine Shape.passesOn_via (Shape.passesOn_extended FundsBundle.shape_sound ?_ ?_) _
  · refine Fields.passesOn_nonemptyText ?_ <| passesOn_field Shape.passesOn_word ?_ <|
      passesOn_field Shape.passesOn_bytes ?_ <| passesOn_field FundsInputs.shape_passesOn ?_ trivial
    all_goals
      intro ms distinct
      simp [Json.latest_adapt_same, Json.latest_adapt_other, Json.latest_leaveOut _ distinct]
  · intro key other ms distinct
    have other : key ∉ FundsBundle.names := other
    simp only [FundsBundle.names, List.mem_cons, List.not_mem_nil, or_false, not_or] at other
    simp [Json.latest_adapt_other, Json.latest_leaveOut _ distinct, other]

theorem SubProof.shape_passesOn : SubProof.shape.PassesOn SubProof.passedOn := by
  refine Shape.passesOn_via (Shape.passesOn_extended SubProof.shape_sound ?_ ?_) _
  · have text := Shape.passesOn_text
    have word := Shape.passesOn_word
    have filled : ((Shape.list .text).write []).sort = (Json.array []).sort := rfl
    refine passesOn_field text ?_ <| passesOn_field text ?_ <| passesOn_field text ?_ <|
      passesOn_fieldOr (Shape.passesOn_list_id text) filled ?_ <| passesOn_field text ?_ <|
      passesOn_field word ?_ <| passesOn_field word ?_ trivial
    all_goals
      intro ms distinct
      simp [Json.latest_supply_same, Json.latest_supply_other]
  · intro key other ms distinct
    have other : key ∉ SubProof.names := other
    simp only [SubProof.names, List.mem_cons, List.not_mem_nil, or_false, not_or] at other
    simp [Json.latest_supply_other, other]

/-! ## Identity bundles -/

/-- What becomes of the members of an identity bundle: an identifier and a policy that are null
are left out, and no proofs and no query result are written where none stand. -/
def IdentityBundle.passMembers (ms : List (String × Json)) : List (String × Json) :=
  supply "queryResult" .null <| supply "proofs" (.array []) <|
    adapt "proofs" (onItems SubProof.passedOn) <|
      leaveOut [("uniqueIdentifier", .null), ("policy", .null)] ms

def IdentityBundle.passedOn : Json → Json :=
  onMembers passMembers

namespace IdentityBundle

variable {ms entries : List (String × Json)}

theorem latest_passMembers_unknown {key : String} (unknown : key ∉ names)
    (distinct : (ms.map Prod.fst).Nodup) : latest key (passMembers ms) = latest key ms := by
  simp only [names, List.mem_cons, List.not_mem_nil, or_false, not_or] at unknown
  simp [passMembers, Json.latest_supply_other, Json.latest_adapt_other,
    Json.latest_leaveOut _ distinct, unknown]

/-- An object is written as if it had only had the declared members. -/
theorem write_object {bundle : IdentityBundle} (made : shape.ofTree (.object entries) = .ok bundle) :
    (shape.write bundle).sort =
      (passedOn (.object (restrict names (Json.sortMembers entries)))).sort := by
  obtain ⟨fields, inside, written⟩ := Shape.via_cases made
  refine (congrArg Json.sort written).trans
    (Shape.write_record IdentityBundle.shape_sound ?_ ?_ inside)
  · have text := Shape.passesOn_text
    have proofs := Shape.passesOn_list SubProof.shape_passesOn
    refine passesOn_field text ?_ <| Fields.passesOn_optional text ?_ <|
      passesOn_fieldOr proofs (show _ = (Json.array []).sort from rfl) ?_ <|
      passesOn_fieldOr Shape.passesOn_value (show _ = Json.null.sort from rfl) ?_ <|
      passesOn_field text ?_ <| Fields.passesOn_optional Shape.passesOn_value ?_ trivial
    all_goals
      intro ms distinct
      simp [passMembers, Json.latest_supply_same, Json.latest_supply_other,
        Json.latest_adapt_same, Json.latest_adapt_other, Json.latest_leaveOut _ distinct]
  · intro key unknown ms distinct
    exact latest_passMembers_unknown unknown distinct

/-- Taking away the members that are not declared changes what is passed on, if there are any. -/
theorem passedOn_restrict_iff (distinct : (ms.map Prod.fst).Nodup) :
    FreeForm.ofTree (passedOn (.object (restrict names ms))) =
        FreeForm.ofTree (passedOn (.object ms)) ↔ ∀ m ∈ ms, m.1 ∈ names := by
  constructor
  · intro same m member
    by_contra unknown
    have trees : Json.sortMembers (passMembers (restrict names ms)) =
        Json.sortMembers (passMembers ms) :=
      Json.object.inj (congrArg FreeForm.tree same)
    -- No edit touches a key that is not declared, so its value tells the two apart.
    have values := congrArg (latest m.1) trees
    rw [Json.latest_sortMembers, Json.latest_sortMembers, latest_passMembers_unknown unknown distinct,
      latest_passMembers_unknown unknown (Json.nodup_restrict names distinct),
      Json.latest_restrict, if_neg unknown, Option.map_none, eq_comm, Option.map_eq_none_iff,
      Json.latest_eq_none_iff] at values
    exact values m member rfl
  · intro known
    have all : restrict names ms = ms := List.filter_eq_self.2 fun m member =>
      decide_eq_true (known m member)
    rw [all]

theorem ofTree_write_of_read {text : String} {value : FreeForm}
    {ms : List (String × Json)} {bundle : IdentityBundle}
    (valueRead : FreeForm.read text = .ok value) (object : value.tree = .object ms)
    (read : shape.read text = .ok bundle) :
    FreeForm.ofTree (shape.write bundle) = .ofTree (passedOn (.object (restrict names ms))) := by
  obtain ⟨tree, treeRead, rfl⟩ := map_eq_ok.1 valueRead
  have made := Shape.ofTree_of_read treeRead read
  cases tree with
  | object entries =>
      cases object
      exact FreeForm.ofTree_eq (write_object made)
  | _ => cases object

end IdentityBundle

theorem FreeForm.nodup_of_object {value : FreeForm} {ms : List (String × Json)}
    (object : value.tree = .object ms) : (ms.map Prod.fst).Nodup := by
  have sorted := value.sorted
  rw [object] at sorted
  exact Json.nodup_of_membersSorted sorted

/-! ## Documents -/

/-- Funds bundles and sub-proofs are passed on with everything that stands in them, and what is
kept beside the declared members never has the name of one.  If the numbers are settled, what is
passed on is also what the written text is read as. -/
theorem proofs_pass_through (text : String) :
    (∀ bundle, FundsBundle.shape.read text = .ok bundle →
      (∃ value, FreeForm.read text = .ok value ∧
        FreeForm.ofTree (FundsBundle.shape.write bundle) =
          .ofTree (FundsBundle.passedOn value.tree) ∧
        ((FundsBundle.shape.write bundle).Settled →
          FreeForm.read (FundsBundle.shape.render bundle) =
            .ok (.ofTree (FundsBundle.passedOn value.tree)))) ∧
      (∀ m ∈ bundle.extra.entries, m.1 ∉ FundsBundle.names) ∧
      ∀ m ∈ bundle.publicInputs.extra.entries, m.1 ∉ FundsInputs.names) ∧
    ∀ proof, SubProof.shape.read text = .ok proof →
      (∃ value, FreeForm.read text = .ok value ∧
        FreeForm.ofTree (SubProof.shape.write proof) = .ofTree (SubProof.passedOn value.tree) ∧
        ((SubProof.shape.write proof).Settled →
          FreeForm.read (SubProof.shape.render proof) =
            .ok (.ofTree (SubProof.passedOn value.tree)))) ∧
      ∀ m ∈ proof.extra.entries, m.1 ∉ SubProof.names := by
  constructor
  · intro bundle read
    refine ⟨FundsBundle.shape_passesOn.document FundsBundle.shape_retains FundsBundle.shape_sound
      (by decide) read, ?_⟩
    obtain ⟨inputs, extra⟩ :=
      (FundsBundle.faithful_iff bundle).1 (FundsBundle.faithful_of_read read)
    exact ⟨extra, (FundsInputs.faithful_iff _).1 inputs⟩
  · intro proof read
    refine ⟨SubProof.shape_passesOn.document SubProof.shape_retains SubProof.shape_sound
      (by decide) read, ?_⟩
    have faithful : SubProof.shape.Faithful proof :=
      (Shape.within_of_readGlyphs SubProof.shape_sound (by decide) read).1
    exact (SubProof.faithful_iff proof).1 faithful

def FundsBundle.sampleDocument : Json :=
  .object [("rail_id", .string ""), ("circuit_version", .number (.natural 3)),
    ("prover", .string "first"), ("proof", .array [.number (.natural 170)]),
    ("public_inputs", .object [("threshold_raw", .number (.natural 1000)),
      ("required_currency_code", .number (.natural 5915971)), ("required_custodian_id", .null),
      ("current_epoch", .number (.natural 0)), ("verifier_scope_id", .number (.natural 42)),
      ("policy_id", .number (.natural 7)), ("nullifier", .array []),
      ("proven_sum", .number (.natural 1500))]),
    ("prover", .string "second")]

def SubProof.sampleDocument : Json :=
  .object [("total", .number (.natural 1)), ("name", .string "compare_age"),
    ("circuit", .object [("size", .null)]), ("version", .string "0.2"), ("proof", .string "abcd"),
    ("vkeyHash", .string "0xvk"), ("index", .number (.natural 0))]

theorem proofs_pass_through_sample :
    (∃ bundle, FundsBundle.shape.read FundsBundle.sampleDocument.render = .ok bundle ∧
      FreeForm.read (FundsBundle.shape.render bundle) = .ok (.ofTree (.object
        [("circuit_version", .number (.natural 3)), ("prover", .string "second"),
          ("proof", .array [.number (.natural 170)]),
          ("public_inputs", .object [("threshold_raw", .number (.natural 1000)),
            ("required_currency_code", .number (.natural 5915971)),
            ("current_epoch", .number (.natural 0)), ("verifier_scope_id", .number (.natural 42)),
            ("policy_id", .number (.natural 7)), ("nullifier", .array []),
            ("proven_sum", .number (.natural 1500))])]))) ∧
    ∃ proof, SubProof.shape.read SubProof.sampleDocument.render = .ok proof ∧
      FreeForm.read (SubProof.shape.render proof) = .ok (.ofTree (.object
        [("total", .number (.natural 1)), ("name", .string "compare_age"),
          ("circuit", .object [("size", .null)]), ("version", .string "0.2"),
          ("proof", .string "abcd"), ("vkeyHash", .string "0xvk"), ("index", .number (.natural 0)),
          ("publicInputs", .array [])])) := by
  constructor
  · obtain ⟨bundle, read, settled⟩ : ∃ bundle,
        FundsBundle.shape.read FundsBundle.sampleDocument.render = .ok bundle ∧
          (FundsBundle.shape.write bundle).Settled :=
      Shape.exists_of_accepted (by decide +kernel) (by decide) (by decide +kernel)
    have value : FreeForm.read FundsBundle.sampleDocument.render =
        .ok (.ofTree FundsBundle.sampleDocument) :=
      FreeForm.read_render (by decide +kernel) (by decide)
    obtain ⟨⟨found, valueRead, -, written⟩, -⟩ := (proofs_pass_through _).1 bundle read
    cases value.symm.trans valueRead
    refine ⟨bundle, read, (written settled).trans (congrArg Except.ok ?_)⟩
    decide +kernel
  · obtain ⟨proof, read, settled⟩ : ∃ proof,
        SubProof.shape.read SubProof.sampleDocument.render = .ok proof ∧
          (SubProof.shape.write proof).Settled :=
      Shape.exists_of_accepted (by decide +kernel) (by decide) (by decide +kernel)
    have value : FreeForm.read SubProof.sampleDocument.render =
        .ok (.ofTree SubProof.sampleDocument) :=
      FreeForm.read_render (by decide +kernel) (by decide)
    obtain ⟨⟨found, valueRead, -, written⟩, -⟩ := (proofs_pass_through _).2 proof read
    cases value.symm.trans valueRead
    refine ⟨proof, read, (written settled).trans (congrArg Except.ok ?_)⟩
    decide +kernel

/-- An identity bundle is written without the members that are not declared, so it is passed on
with everything that stands in it exactly if it has no others.  If the numbers are settled, what is
written is also what the text is read as. -/
theorem identity_passes_through {text : String} {value : FreeForm} {ms : List (String × Json)}
    {bundle : IdentityBundle} (valueRead : FreeForm.read text = .ok value)
    (object : value.tree = .object ms) (read : IdentityBundle.shape.read text = .ok bundle) :
    FreeForm.ofTree (IdentityBundle.shape.write bundle) =
        .ofTree (IdentityBundle.passedOn (.object (restrict IdentityBundle.names ms))) ∧
      (FreeForm.ofTree (IdentityBundle.shape.write bundle) =
          .ofTree (IdentityBundle.passedOn value.tree) ↔ ∀ m ∈ ms, m.1 ∈ IdentityBundle.names) ∧
      ((IdentityBundle.shape.write bundle).Settled →
        FreeForm.read (IdentityBundle.shape.render bundle) =
          .ok (.ofTree (IdentityBundle.passedOn (.object (restrict IdentityBundle.names ms))))) := by
  have written := IdentityBundle.ofTree_write_of_read valueRead object read
  refine ⟨written, ?_, fun settled => ?_⟩
  · rw [written, object]
    exact IdentityBundle.passedOn_restrict_iff (FreeForm.nodup_of_object object)
  · rw [Shape.read_value_render IdentityBundle.shape_sound (by decide) read settled, written]

def IdentityBundle.documentWith (others : List (String × Json)) : Json :=
  .object ([("proofId", .string "proof-1"), ("proofs", .array [SubProof.sampleDocument]),
    ("requestId", .string "req-1"), ("uniqueIdentifier", .null)] ++ others)

theorem identity_passes_through_sample :
    ∃ bundle, IdentityBundle.shape.read (IdentityBundle.documentWith []).render = .ok bundle ∧
      FreeForm.ofTree (IdentityBundle.shape.write bundle) = .ofTree (.object
        [("proofId", .string "proof-1"),
          ("proofs", .array [SubProof.passedOn SubProof.sampleDocument]),
          ("requestId", .string "req-1"), ("queryResult", .null)]) ∧
      FreeForm.read (IdentityBundle.shape.render bundle) =
        .ok (.ofTree (IdentityBundle.shape.write bundle)) := by
  have documentSettled : (IdentityBundle.documentWith []).Settled := by decide +kernel
  obtain ⟨bundle, read, settled⟩ : ∃ bundle,
      IdentityBundle.shape.read (IdentityBundle.documentWith []).render = .ok bundle ∧
        (IdentityBundle.shape.write bundle).Settled :=
    Shape.exists_of_accepted documentSettled (by decide) (by decide +kernel)
  have value : FreeForm.read (IdentityBundle.documentWith []).render =
      .ok (.ofTree (IdentityBundle.documentWith [])) :=
    FreeForm.read_render documentSettled (by decide)
  obtain ⟨written, everything, reread⟩ := identity_passes_through value rfl read
  refine ⟨bundle, read, (everything.2 ?_).trans ?_, ?_⟩
  · decide +kernel
  · decide +kernel
  · rw [reread settled, written]

/-- A member that is not declared is lost. -/
theorem identity_member_lost :
    let text := (IdentityBundle.documentWith [("sessionId", .string "s-1")]).render
    ∃ value bundle, FreeForm.read text = .ok value ∧
      IdentityBundle.shape.read text = .ok bundle ∧
      value.tree.member? "sessionId" = some (.string "s-1") ∧
      FreeForm.ofTree (IdentityBundle.shape.write bundle) ≠
        .ofTree (IdentityBundle.passedOn value.tree) ∧
      FreeForm.read (IdentityBundle.shape.render bundle) ≠
        .ok (.ofTree (IdentityBundle.passedOn value.tree)) := by
  intro text
  have documentSettled :
      (IdentityBundle.documentWith [("sessionId", .string "s-1")]).Settled := by decide +kernel
  obtain ⟨bundle, read, settled⟩ : ∃ bundle, IdentityBundle.shape.read text = .ok bundle ∧
      (IdentityBundle.shape.write bundle).Settled :=
    Shape.exists_of_accepted documentSettled (by decide) (by decide +kernel)
  have value : FreeForm.read text =
      .ok (.ofTree (IdentityBundle.documentWith [("sessionId", .string "s-1")])) :=
    FreeForm.read_render documentSettled (by decide)
  have written := IdentityBundle.ofTree_write_of_read value rfl read
  have lost : FreeForm.ofTree (IdentityBundle.shape.write bundle) ≠
      .ofTree (IdentityBundle.passedOn
        (FreeForm.ofTree (IdentityBundle.documentWith [("sessionId", .string "s-1")])).tree) := by
    rw [written]
    decide +kernel
  refine ⟨_, bundle, value, read, by decide +kernel, lost, fun back => lost ?_⟩
  rw [Shape.read_value_render IdentityBundle.shape_sound (by decide) read settled] at back
  exact Except.ok.inj back

end HolderBond
