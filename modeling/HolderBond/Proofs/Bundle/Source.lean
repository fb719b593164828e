import HolderBond.Proofs.Binding.Preimages
import HolderBond.Proofs.Bond.CreatedTransport
import HolderBond.Proofs.Bundle.PassThrough
import HolderBond.Proofs.Shape.Outlines

/-!
# What stands for a holder without an identifier

Without an identifier the query result stands for the holder, as the text that is written for it.
That text is the same for two bundles exactly if their query results say the same, however either
document was spelled, so the identity commitment does not depend on the spelling and holders whose
query results differ are committed to through different bytes.
-/

set_option autoImplicit false

namespace HolderBond

open Json.Scan (memberTexts? toOption_eq_some)

/-! ## Hashed bytes -/

namespace BondRequest

variable {request other : BondRequest}

def identityBytes (request : BondRequest) : List UInt8 :=
  Commitment.identityPreimage request.identity.source request.seed.identitySalt

theorem identityCommitment_eq (request : BondRequest) :
    request.identityCommitment = HashAlgorithm.blake3.digest request.identityBytes :=
  rfl

/-- With one seed the hashed bytes tell apart what stands for the holders, and nothing else. -/
theorem identityBytes_eq_iff (seeds : request.seed = other.seed) :
    request.identityBytes = other.identityBytes ↔
      request.identity.source = other.identity.source := by
  rw [identityBytes, identityBytes, seeds]
  constructor
  · exact fun same => (Commitment.identityPreimage_inj rfl same).1
  · exact fun same => by rw [same]

end BondRequest

namespace IdentityBundle

variable {text : String} {bundle : IdentityBundle}

theorem source_of_unnamed (unnamed : bundle.resolvedIdentifier = none) :
    bundle.source = bundle.queryResult.render := by
  rw [source, unnamed, Option.getD_none]

/-! ## Query results -/

/-- The query result of a document that has one is its tree, spelled as it may be. -/
theorem exists_query_of_read (read : IdentityBundle.shape.read text = .ok bundle)
    (provided : Json.Provides text "queryResult" 3) :
    ∃ q, (∀ tree, Json.Holds text "queryResult" 3 tree ↔ tree = q) ∧
      bundle.queryResult = .ofTree q := by
  obtain ⟨a, recordRead, rfl⟩ := Shape.exists_of_read_via read
  obtain ⟨given, sourced, -, -, -, query, -⟩ :=
    Shape.givenBy_of_read IdentityBundle.shape_sound
      ⟨Shape.retains_text, Shape.retains_optional Shape.retains_text,
        Shape.retains_list SubProof.shape_retains, Shape.retains_value, Shape.retains_text,
        Shape.retains_optional Shape.retains_value, trivial⟩ recordRead
  obtain ⟨held, there⟩ := sourced "queryResult" (by decide) 3
  obtain ⟨q, found⟩ := Option.isSome_iff_exists.1 (there provided)
  have query : Presence.Gives (.filled .null) Shape.value (given 3 "queryResult") _ := query
  rw [found] at query
  refine ⟨q, fun tree => ⟨fun holds => holds.unique (held q found), ?_⟩, ?_⟩
  · rintro rfl
    exact held _ found
  · exact (Except.ok.inj query).symm

/-! ## Sources -/

/-- Without an identifier, what stands for the holder is the same exactly if the query results say
the same.  So however two documents are spelled, with one seed alike query results give one
commitment and all others are hashed as different bytes. -/
theorem source_canonical {first second : String} {a b : IdentityBundle}
    (readFirst : IdentityBundle.shape.read first = .ok a)
    (readSecond : IdentityBundle.shape.read second = .ok b)
    (unnamedFirst : a.resolvedIdentifier = none) (unnamedSecond : b.resolvedIdentifier = none)
    (asksFirst : Json.Provides first "queryResult" 3)
    (asksSecond : Json.Provides second "queryResult" 3) :
    ∃ q r, (∀ tree, Json.Holds first "queryResult" 3 tree ↔ tree = q) ∧
      (∀ tree, Json.Holds second "queryResult" 3 tree ↔ tree = r) ∧
      (a.source = b.source ↔ Json.Alike q r) ∧
      ∀ request other : BondRequest, request.identity = a → other.identity = b →
        request.seed = other.seed →
        (Json.Alike q r → request.identityCommitment = other.identityCommitment) ∧
          (request.identityBytes = other.identityBytes ↔ Json.Alike q r) := by
  obtain ⟨q, onlyFirst, queryFirst⟩ := exists_query_of_read readFirst asksFirst
  obtain ⟨r, onlySecond, querySecond⟩ := exists_query_of_read readSecond asksSecond
  have sources : a.source = b.source ↔ Json.Alike q r := by
    rw [source_of_unnamed unnamedFirst, source_of_unnamed unnamedSecond, queryFirst, querySecond]
    exact Json.render_ofTree_eq_iff q r
  refine ⟨q, r, onlyFirst, onlySecond, sources, ?_⟩
  rintro request other rfl rfl seeds
  have bytes := (BondRequest.identityBytes_eq_iff seeds).trans sources
  refine ⟨fun alike => ?_, bytes⟩
  rw [request.identityCommitment_eq, other.identityCommitment_eq, bytes.2 alike]

def resident (proofId requestId : String) (uniqueIdentifier : Option String) : IdentityBundle where
  proofId := proofId
  uniqueIdentifier := uniqueIdentifier
  proofs := []
  queryResult := .ofTree (.object [("age", .number (.natural 21)), ("land", .string "CH")])
  requestId := requestId
  policy := none

/-- The answer as an object, with an age that is taken back and a note that no value is read
from. -/
def memberSample : String :=
  "\x7b \"queryResult\" : \x7b\"age\":1, \"land\":\"\\u0043H\", \"age\":\t21\x7d,\n" ++
    "\"note\":\"\\ud800\", \"requestId\":\"r\", \"proofId\":\"p\" \x7d"

def itemSample : String :=
  "[\"q\", \" \", [], \x7b\"land\":\"CH\",\"age\":21\x7d, \"s\"]"

theorem source_canonical_sample :
    IdentityBundle.shape.read memberSample = .ok (resident "p" "r" none) ∧
      IdentityBundle.shape.read itemSample = .ok (resident "q" "s" (some " ")) ∧
      ∃ q r, Json.Holds memberSample "queryResult" 3 q ∧ Json.Holds itemSample "queryResult" 3 r ∧
        Json.Alike q r := by
  have readMembers : IdentityBundle.shape.read memberSample = .ok (resident "p" "r" none) :=
    toOption_eq_some.1 (by decide +kernel)
  have readItems : IdentityBundle.shape.read itemSample = .ok (resident "q" "s" (some " ")) :=
    toOption_eq_some.1 (by decide +kernel)
  have cut : ((memberTexts? memberSample).bind fun parts =>
      parts.lookup "queryResult").isSome = true := by decide +kernel
  have items : Json.read itemSample = .ok (.array [.string "q", .string " ", .array [],
      .object [("land", .string "CH"), ("age", .number (.natural 21))], .string "s"]) :=
    toOption_eq_some.1 (by decide +kernel)
  obtain ⟨q, r, onlyMember, onlyItem, sources, -⟩ := source_canonical readMembers readItems
    (by decide +kernel) (by decide +kernel) (Json.provides_of_member cut)
    (Json.provides_of_item items rfl)
  exact ⟨readMembers, readItems, q, r, (onlyMember q).2 rfl, (onlyItem r).2 rfl,
    sources.1 (by decide +kernel)⟩

end IdentityBundle

end HolderBond
