import HolderBond.Byte.Hex
import HolderBond.Url.Form

/-!
# Numeric hosts

Hosts that are addresses: four bytes, written as one to four numbers of which the last
fills the bytes that are left, or eight groups of digits between brackets, one run of them
left out at most.
-/

set_option autoImplicit false

namespace HolderBond.Url

def hexDigit? (c : Char) : Option Nat :=
  if c.toNat < 128 then Hex.value? (UInt8.ofNat c.toNat) else none

def digitsValue? (base : Nat) (digits : List Char) : Option Nat :=
  digits.foldlM (fun total c => (hexDigit? c).bind fun d =>
    if d < base then some (total * base + d) else none) 0

/-! ## Four bytes -/

/-- The number that a part of an address writes: hexadecimal after `0x`, octal after another
zero, decimal otherwise. -/
def partValue? : List Char → Option Nat
  | [] => none
  | '0' :: 'x' :: digits => digitsValue? 16 digits
  | '0' :: 'X' :: digits => digitsValue? 16 digits
  | '0' :: d :: digits => digitsValue? 8 (d :: digits)
  | digits => digitsValue? 10 digits

/-- The parts between dots, without an empty last one. -/
def addressParts (host : List Char) : List (List Char) :=
  match (Text.piecesBetween '.' host).reverse with
  | [] :: parts => parts.reverse
  | parts => parts.reverse

/-- Whether the last part of a host is a number or made of decimal digits, so that the host
has to be an address. -/
def endsInNumber (host : List Char) : Bool :=
  match (addressParts host).getLast? with
  | none => false
  | some [] => false
  | some last => last.all Char.isDigit || (partValue? last).isSome

def isFourByteAddress (host : List Char) : Bool :=
  let parts := addressParts host
  match parts.mapM partValue? with
  | none => false
  | some values =>
      parts.length ≤ 4 && values.dropLast.all (· ≤ 255) &&
        values.getLast?.any (· < Nat.pow 256 (5 - parts.length))

/-! ## Eight groups -/

def isDecimalByte (part : List Char) : Bool :=
  part.all Char.isDigit && (part.length == 1 || part.head?.any (· != '0')) &&
    (digitsValue? 10 part).any (· ≤ 255)

def isDottedQuad (rest : List Char) : Bool :=
  let parts := Text.piecesBetween '.' rest
  parts.length == 4 && parts.all isDecimalByte

/-- Whether the rest of an address is in order after `groups` groups; `shortened` says that a
run of groups has been left out. -/
def groupsInOrder : Nat → Nat → Bool → List Char → Bool
  | _, groups, shortened, [] => shortened || groups == 8
  | 0, _, _, _ => false
  | bound + 1, groups, shortened, ':' :: rest =>
      groups < 8 && !shortened && groupsInOrder bound (groups + 1) true rest
  | bound + 1, groups, shortened, rest =>
      let digits := (rest.take 4).takeWhile fun c => (hexDigit? c).isSome
      groups < 8 &&
        match rest.drop digits.length with
        | [] => groupsInOrder bound (groups + 1) shortened []
        | ':' :: after =>
            !after.isEmpty && groupsInOrder bound (groups + 1) shortened after
        | '.' :: _ =>
            !digits.isEmpty && groups ≤ 6 && (shortened || groups == 6) && isDottedQuad rest
        | _ => false

def isGroupedAddress (text : List Char) : Bool :=
  match text with
  | [] | [_] => false
  | ':' :: ':' :: rest => groupsInOrder rest.length 1 true rest
  | ':' :: _ => false
  | _ => groupsInOrder text.length 0 false text

end HolderBond.Url
