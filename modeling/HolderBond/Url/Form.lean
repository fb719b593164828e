import HolderBond.Byte.Hex
import HolderBond.Text.Pieces

/-!
# Form-encoded queries

A query is pairs joined by `&`, name and value parted by the first `=`, blanks written as
`+` and other bytes as a percent sign and two digits.
-/

set_option autoImplicit false

namespace HolderBond.Url

def percent : UInt8 := 37

/-- Bytes with every percent sign that two digits follow replaced by the byte they write. -/
def percentDecode : List UInt8 → List UInt8
  | a :: b :: c :: rest =>
      if a == percent then
        match Hex.value? b, Hex.value? c with
        | some high, some low => UInt8.ofNat (16 * high + low) :: percentDecode rest
        | _, _ => a :: percentDecode (b :: c :: rest)
      else a :: percentDecode (b :: c :: rest)
  | few => few

def formDecode (cs : List Char) : String :=
  let spaced := cs.map fun c => if c == '+' then ' ' else c
  Text.ofUtf8Lossy (percentDecode (Text.utf8Chars spaced))

def formPair (piece : List Char) : String × String :=
  (formDecode (piece.takeWhile (· != '=')), formDecode ((piece.dropWhile (· != '=')).drop 1))

/-- The pairs of a query in order; empty pieces count for nothing. -/
def formPairs (query : List Char) : List (String × String) :=
  ((Text.piecesBetween '&' query).filter fun piece => !piece.isEmpty).map formPair

end HolderBond.Url
