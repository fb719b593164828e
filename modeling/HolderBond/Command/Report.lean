import HolderBond.Bond.Basic
import HolderBond.Time.Calendar
import HolderBond.Verification.Verdict

/-!
# What commands show

The lines on a verdict, and the lines on the bonds that are kept.
-/

set_option autoImplicit false

namespace HolderBond.Report

def lines (texts : List String) : String :=
  String.join (texts.map fun text => text ++ "\n")

def mark (holds : Bool) : String :=
  if holds then "ok" else "FAILED"

def verdict (id : String) (v : Verdict) : String :=
  let outcome := if v.valid then "VALID" else "INVALID"
  let validUntil := toString v.checks.expiry.validUntil.toNat
  let checkedAt := toString v.checks.expiry.checkedAt.toNat
  lines <|
    ["Bond " ++ id ++ ": " ++ outcome,
      "  Identity:   " ++ mark v.identityVerified,
      "    query result:  " ++ mark v.checks.identity.queryResultPresent,
      "    disclosures:   " ++ mark v.checks.identity.disclosuresPresent,
      "    proof:         " ++ mark v.checks.identity.proofVerified,
      "  Funds:      " ++ mark v.fundsVerified,
      "    proof:         " ++ mark v.checks.funds.proofVerified,
      "    threshold:     " ++ mark v.checks.funds.thresholdMet,
      "    rail:          " ++ mark v.checks.funds.railMatched,
      "  Binding:    " ++ mark v.bindingVerified,
      "    binding:       " ++ mark v.checks.binding.bindingMatched,
      "    nullifier:     " ++ mark v.checks.binding.nullifierMatched,
      "    scope:         " ++ mark v.checks.binding.scopeMatched,
      "    epoch window:  " ++ mark v.checks.binding.epochInWindow,
      "  Expiration: " ++ mark (!v.expired) ++ " (valid until " ++ validUntil ++
        ", checked at " ++ checkedAt ++ ")"] ++
      v.error.toList.map fun error => "  Error: " ++ error

/-- A second as a date, or as a number if it has none. -/
def second (n : UInt64) : String :=
  match Instant.ofSecond? n.toNat with
  | some instant => instant.text
  | none => toString n.toNat

def bondLine (now : UInt64) (bond : Bond) : String :=
  let status := if bond.isExpiredAt now then "expired " else "active  "
  "  " ++ bond.id ++ "  " ++ status ++ " purpose=" ++ bond.metadata.purpose ++
    " scope=" ++ bond.metadata.scope ++ " valid_until=" ++ second bond.metadata.validUntil

def bonds (now : UInt64) (kept : List Bond) : String :=
  let count := toString kept.length
  lines (("Cached bonds (" ++ count ++ "):") :: kept.map (bondLine now))

end HolderBond.Report
