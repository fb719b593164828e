import HolderBond.Byte.Hex

/-!
# Values of thirty-two bytes

Digests, commitments, bindings and nullifiers.  Written as `0x` and sixty-four lowercase
digits; read with or without one `0x` and in either case.
-/

set_option autoImplicit false

namespace HolderBond

structure Bytes32 where
  bytes : Vector UInt8 32
  deriving DecidableEq

inductive Bytes32.Error where
  | badHex (cause : Hex.Error)
  | badLength (actual : Nat)
  deriving DecidableEq, Repr

namespace Bytes32

def Error.message : Error → String
  | .badHex cause => "invalid hex: " ++ cause.message
  | .badLength actual => s!"invalid byte length: expected 32, got {actual}"

def toList (value : Bytes32) : List UInt8 :=
  value.bytes.toList

def ofList? (bytes : List UInt8) : Option Bytes32 :=
  if h : bytes.length = 32 then some ⟨⟨bytes.toArray, by simpa using h⟩⟩ else none

/-- The value of a list of bytes, with the length that was found where it is wrong. -/
def ofList (bytes : List UInt8) : Except Error Bytes32 :=
  match ofList? bytes with
  | some value => .ok value
  | none => .error (.badLength bytes.length)

def zero : Bytes32 :=
  ⟨Vector.replicate 32 0⟩

def withoutMark (s : String) : String :=
  match s.toList with
  | '0' :: 'x' :: rest => String.ofList rest
  | _ => s

/-- Reads the digits, after one optional `0x`. -/
def ofHex (s : String) : Except Error Bytes32 :=
  match Hex.decode (withoutMark s) with
  | .error cause => .error (.badHex cause)
  | .ok bytes => ofList bytes

def digits (value : Bytes32) : String :=
  Hex.encode value.toList

def toHex (value : Bytes32) : String :=
  "0x" ++ value.digits

def shown (value : Bytes32) : String :=
  "Bytes32(" ++ value.toHex ++ ")"

def compareBytes : List UInt8 → List UInt8 → Ordering
  | [], [] => .eq
  | [], _ :: _ => .lt
  | _ :: _, [] => .gt
  | a :: as, b :: bs =>
      if a < b then .lt else if b < a then .gt else compareBytes as bs

instance : Ord Bytes32 :=
  ⟨fun a b => compareBytes a.toList b.toList⟩

@[simp] theorem length_toList (value : Bytes32) : value.toList.length = 32 := by
  simp [toList]

@[simp] theorem ofList?_toList (value : Bytes32) : ofList? value.toList = some value := by
  rw [ofList?, dif_pos value.length_toList]
  cases value with
  | mk bytes => cases bytes; simp [toList, Vector.toList]

theorem toList_of_ofList? {bytes : List UInt8} {value : Bytes32}
    (found : ofList? bytes = some value) : value.toList = bytes := by
  unfold ofList? at found
  split at found
  · cases found
    simp [toList]
  · cases found

theorem toList_injective {a b : Bytes32} (same : a.toList = b.toList) : a = b := by
  have left := ofList?_toList a
  rw [same, ofList?_toList] at left
  exact (Option.some.inj left).symm

@[simp] theorem ofHex_toHex (value : Bytes32) : ofHex value.toHex = .ok value := by
  have plain : withoutMark value.toHex = value.digits := by
    simp [withoutMark, toHex, String.toList_append, digits]
  rw [ofHex, plain, digits, Hex.decode_encode]
  simp [ofList]

end Bytes32

end HolderBond
