/-!
# UTF-8

The bytes of a text, and the reading of arbitrary bytes as characters with the malformed
stretches kept visible.  A malformed stretch is the longest run of bytes that begins a
character and cannot finish it, or a single byte that begins none.
-/

set_option autoImplicit false

namespace HolderBond.Text

def utf8Chars (cs : List Char) : List UInt8 :=
  cs.flatMap String.utf8EncodeChar

def utf8 (s : String) : List UInt8 :=
  utf8Chars s.toList

/-- One item of decoded bytes: a character, or a malformed stretch of some length. -/
inductive Glyph where
  | char (c : Char)
  | malformed (length : Nat)
  deriving DecidableEq, Repr

def Glyph.byteLength : Glyph → Nat
  | .char c => c.utf8Size
  | .malformed n => n

def glyphs (s : String) : List Glyph :=
  s.toList.map .char

def isTail (b : UInt8) : Bool :=
  0x80 ≤ b && b ≤ 0xBF

def tailBits (b : UInt8) : Nat :=
  b.toNat % 64

/-- The bytes that may follow the leading byte `a` of a character of three bytes. -/
def isSecondOfThree (a b : UInt8) : Bool :=
  (a == 0xE0 && 0xA0 ≤ b && b ≤ 0xBF) || (a == 0xED && 0x80 ≤ b && b ≤ 0x9F) ||
    (a != 0xE0 && a != 0xED && isTail b)

def isSecondOfFour (a b : UInt8) : Bool :=
  (a == 0xF0 && 0x90 ≤ b && b ≤ 0xBF) || (a == 0xF4 && 0x80 ≤ b && b ≤ 0x8F) ||
    (a != 0xF0 && a != 0xF4 && isTail b)

/-- The first glyph of a non-empty byte list, and how many bytes it takes. -/
def firstGlyph (a : UInt8) (rest : List UInt8) : Glyph × Nat :=
  if a < 0x80 then (.char (Char.ofNat a.toNat), 1)
  else if 0xC2 ≤ a && a ≤ 0xDF then
    match rest with
    | b :: _ =>
        if isTail b then (.char (Char.ofNat (a.toNat % 32 * 64 + tailBits b)), 2)
        else (.malformed 1, 1)
    | [] => (.malformed 1, 1)
  else if 0xE0 ≤ a && a ≤ 0xEF then
    match rest with
    | b :: rest =>
        if isSecondOfThree a b then
          match rest with
          | c :: _ =>
              if isTail c then
                (.char (Char.ofNat ((a.toNat % 16 * 64 + tailBits b) * 64 + tailBits c)), 3)
              else (.malformed 2, 2)
          | [] => (.malformed 2, 2)
        else (.malformed 1, 1)
    | [] => (.malformed 1, 1)
  else if 0xF0 ≤ a && a ≤ 0xF4 then
    match rest with
    | b :: rest =>
        if isSecondOfFour a b then
          match rest with
          | c :: rest =>
              if isTail c then
                match rest with
                | d :: _ =>
                    if isTail d then
                      (.char (Char.ofNat
                        (((a.toNat % 8 * 64 + tailBits b) * 64 + tailBits c) * 64 + tailBits d)), 4)
                    else (.malformed 3, 3)
                | [] => (.malformed 3, 3)
              else (.malformed 2, 2)
          | [] => (.malformed 2, 2)
        else (.malformed 1, 1)
    | [] => (.malformed 1, 1)
  else (.malformed 1, 1)

/-- Decoding with a bound on the number of glyphs still to be produced. -/
def decodeWithin : Nat → List UInt8 → List Glyph
  | 0, _ => []
  | _ + 1, [] => []
  | bound + 1, a :: rest =>
      let (glyph, length) := firstGlyph a rest
      glyph :: decodeWithin bound (rest.drop (length - 1))

def decode (bytes : List UInt8) : List Glyph :=
  decodeWithin bytes.length bytes

def ofUtf8? (bytes : List UInt8) : Option String :=
  let step (glyph : Glyph) (acc : Option (List Char)) : Option (List Char) :=
    match glyph with
    | .char c => acc.map (c :: ·)
    | .malformed _ => none
  ((decode bytes).foldr step (some [])).map String.ofList

/-- The text of some bytes, a replacement character standing for each malformed stretch. -/
def ofUtf8Lossy (bytes : List UInt8) : String :=
  String.ofList <| (decode bytes).map fun
    | .char c => c
    | .malformed _ => Char.ofNat 0xFFFD

end HolderBond.Text
