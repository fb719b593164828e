import HolderBond.Shape.Basic

/-!
# Policies

What a verifier asks for: a purpose, a scope, how long the bond is to last, a query about
identity and a demand on funds.
-/

set_option autoImplicit false

namespace HolderBond

open Fields

structure FundsPolicy where
  policyId : UInt64
  threshold : UInt64
  currency : String
  currencyCode : UInt32
  /-- The rail that is required; without one, whatever rail the funds are on. -/
  railId : Option String
  scopeId : UInt64
  deriving DecidableEq

def FundsPolicy.shape : Shape FundsPolicy :=
  .via
    (.record "FundsPolicy" true <|
      field "policyId" .long <|
      field "thresholdRaw" .long <|
      field "currency" .text <|
      fieldOr "currencyCode" 0 .word <|
      optional "railId" .text <|
      field "scopeId" .long .nil)
    { make := fun (policyId, threshold, currency, currencyCode, railId, scopeId, ()) =>
        ⟨policyId, threshold, currency, currencyCode, railId, scopeId⟩
      view := fun p =>
        (p.policyId, p.threshold, p.currency, p.currencyCode, p.railId, p.scopeId, ())
      make_view := fun _ => rfl
      view_make := fun _ => rfl }

structure BondPolicy where
  purpose : String
  scope : String
  validity : UInt64
  identityQuery : FreeForm
  funds : FundsPolicy
  domain : Option String
  deriving DecidableEq

def BondPolicy.shape : Shape BondPolicy :=
  .via
    (.record "BondPolicy" true <|
      field "purpose" .text <|
      field "scope" .text <|
      field "validity" .long <|
      fieldOr "identityQuery" .null .value <|
      field "fundsPolicy" FundsPolicy.shape <|
      optional "domain" .text .nil)
    { make := fun (purpose, scope, validity, identityQuery, funds, domain, ()) =>
        ⟨purpose, scope, validity, identityQuery, funds, domain⟩
      view := fun p => (p.purpose, p.scope, p.validity, p.identityQuery, p.funds, p.domain, ())
      make_view := fun _ => rfl
      view_make := fun _ => rfl }

end HolderBond
