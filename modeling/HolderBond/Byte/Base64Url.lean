import HolderBond.Text.Utf8

/-!
# Base64 with the URL alphabet

Writing never pads.  Reading lets padding be present, absent or partial, and refuses the
first thing wrong in this order: a stray last byte that leaves a group of one, a foreign
byte before the last group, a fault inside the last group, a last group with fewer than
two symbols, unused low bits that are not zero.
-/

set_option autoImplicit false

namespace HolderBond.Base64Url

def symbol (n : Nat) : Char :=
  if n < 26 then Char.ofNat (65 + n)
  else if n < 52 then Char.ofNat (71 + n)
  else if n < 62 then Char.ofNat (n - 4)
  else if n = 62 then '-'
  else '_'

def value? (b : UInt8) : Option Nat :=
  let n := b.toNat
  if 65 ≤ n && n ≤ 90 then some (n - 65)
  else if 97 ≤ n && n ≤ 122 then some (n - 71)
  else if 48 ≤ n && n ≤ 57 then some (n + 4)
  else if n == 45 then some 62
  else if n == 95 then some 63
  else none

/-- Three bytes become four symbols; one or two left over become two or three. -/
def encodeChars : List UInt8 → List Char
  | [] => []
  | [a] => [symbol (a.toNat / 4), symbol (a.toNat % 4 * 16)]
  | [a, b] =>
      [symbol (a.toNat / 4), symbol (a.toNat % 4 * 16 + b.toNat / 16),
        symbol (b.toNat % 16 * 4)]
  | a :: b :: c :: rest =>
      symbol (a.toNat / 4) :: symbol (a.toNat % 4 * 16 + b.toNat / 16) ::
        symbol (b.toNat % 16 * 4 + c.toNat / 64) :: symbol (c.toNat % 64) :: encodeChars rest

def encode (bytes : List UInt8) : String :=
  String.ofList (encodeChars bytes)

inductive Error where
  | badSymbol (byte : UInt8) (offset : Nat)
  | badLength (length : Nat)
  | badLastSymbol (byte : UInt8) (offset : Nat)
  deriving DecidableEq, Repr

def Error.message : Error → String
  | .badSymbol byte offset => s!"Invalid symbol {byte}, offset {offset}."
  | .badLength length => s!"Invalid input length: {length}"
  | .badLastSymbol byte offset => s!"Invalid last symbol {byte}, offset {offset}."

def pad : UInt8 := 61

def join (a b c d : Nat) : List UInt8 :=
  [UInt8.ofNat (a * 4 + b / 16), UInt8.ofNat (b % 16 * 16 + c / 4), UInt8.ofNat (c % 4 * 64 + d)]

/-- Faults in the last group, left to right.  `index` counts within the group and
`firstPad` is the index of the first padding byte met. -/
def checkGroup (start : Nat) : Nat → Option Nat → List UInt8 → Except Error Unit
  | _, _, [] => .ok ()
  | index, firstPad, b :: rest =>
      if b == pad then
        if index < 2 then .error (.badSymbol pad (start + index))
        else checkGroup start (index + 1) (firstPad <|> some index) rest
      else
        match firstPad with
        | some p => .error (.badSymbol pad (start + p))
        | none =>
            match value? b with
            | none => .error (.badSymbol b (start + index))
            | some _ => checkGroup start (index + 1) none rest

def decodeGroup (start : Nat) (group : List UInt8) : Except Error (List UInt8) := do
  checkGroup start 0 none group
  let symbols := group.takeWhile (· != pad)
  match symbols, symbols.filterMap value? with
  | [], [] => .ok []
  | [_, last], [a, b] =>
      if b % 16 == 0 then .ok [UInt8.ofNat (a * 4 + b / 16)]
      else .error (.badLastSymbol last (start + 1))
  | [_, _, last], [a, b, c] =>
      if c % 4 == 0 then
        .ok [UInt8.ofNat (a * 4 + b / 16), UInt8.ofNat (b % 16 * 16 + c / 4)]
      else .error (.badLastSymbol last (start + 2))
  | _, [a, b, c, d] => .ok (join a b c d)
  | _, _ => .error (.badLength (start + symbols.length))

def decodeFrom : Nat → List UInt8 → Except Error (List UInt8)
  | start, a :: b :: c :: d :: e :: rest =>
      match value? a, value? b, value? c, value? d with
      | none, _, _, _ => .error (.badSymbol a start)
      | some _, none, _, _ => .error (.badSymbol b (start + 1))
      | some _, some _, none, _ => .error (.badSymbol c (start + 2))
      | some _, some _, some _, none => .error (.badSymbol d (start + 3))
      | some w, some x, some y, some z => do
          let bytes ← decodeFrom (start + 4) (e :: rest)
          return join w x y z ++ bytes
  | start, group => decodeGroup start group

/-- A last byte that stands alone in its group and is neither padding nor a symbol. -/
def strayLast? (bytes : List UInt8) : Option UInt8 :=
  if bytes.length % 4 == 1 then
    bytes.getLast?.filter fun b => b != pad && (value? b).isNone
  else none

def decode (s : String) : Except Error (List UInt8) :=
  let bytes := Text.utf8 s
  match strayLast? bytes with
  | some b => .error (.badSymbol b (bytes.length - 1))
  | none => decodeFrom 0 bytes

end HolderBond.Base64Url
