/-!
# Spans of code points

Properties of characters are kept as lists of spans, both ends included.
-/

set_option autoImplicit false

namespace HolderBond.Text

def inSpans (c : Char) (spans : List (Nat × Nat)) : Bool :=
  spans.any fun span => span.1 ≤ c.toNat && c.toNat ≤ span.2

end HolderBond.Text
