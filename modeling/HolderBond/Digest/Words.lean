/-!
# Words of four bytes

Splitting bytes into blocks and into 32-bit words of either byte order, and rotation.
-/

set_option autoImplicit false

namespace HolderBond.Words

/-- Consecutive pieces of `size` members; the last may be shorter.  `bound` limits their number. -/
def piecesWithin {α : Type} (size : Nat) : Nat → List α → List (List α)
  | 0, _ => []
  | _ + 1, [] => []
  | bound + 1, xs => xs.take size :: piecesWithin size bound (xs.drop size)

def pieces {α : Type} (size : Nat) (xs : List α) : List (List α) :=
  piecesWithin size xs.length xs

def rotateRight (x n : UInt32) : UInt32 :=
  (x >>> n) ||| (x <<< (32 - n))

def ofBigEndian : List UInt8 → List UInt32
  | a :: b :: c :: d :: rest =>
      (a.toUInt32 <<< 24 ||| b.toUInt32 <<< 16 ||| c.toUInt32 <<< 8 ||| d.toUInt32) ::
        ofBigEndian rest
  | _ => []

def ofLittleEndian : List UInt8 → List UInt32
  | a :: b :: c :: d :: rest =>
      (d.toUInt32 <<< 24 ||| c.toUInt32 <<< 16 ||| b.toUInt32 <<< 8 ||| a.toUInt32) ::
        ofLittleEndian rest
  | _ => []

def toBigEndian (w : UInt32) : List UInt8 :=
  [(w >>> 24).toUInt8, (w >>> 16).toUInt8, (w >>> 8).toUInt8, w.toUInt8]

def toLittleEndian (w : UInt32) : List UInt8 :=
  [w.toUInt8, (w >>> 8).toUInt8, (w >>> 16).toUInt8, (w >>> 24).toUInt8]

def longToBigEndian (w : UInt64) : List UInt8 :=
  [(w >>> 56).toUInt8, (w >>> 48).toUInt8, (w >>> 40).toUInt8, (w >>> 32).toUInt8,
    (w >>> 24).toUInt8, (w >>> 16).toUInt8, (w >>> 8).toUInt8, w.toUInt8]

end HolderBond.Words
