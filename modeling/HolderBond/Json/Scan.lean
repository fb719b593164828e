import HolderBond.Decimal.Approximate
import HolderBond.Json.Error
import HolderBond.Text.Utf8

/-!
# Reading JSON text piece by piece

A `Scan` consumes glyphs from the front of its input or stops with a cause.  Here are the
pieces that every reader shares: blanks, words, strings, numbers, and the punctuation
between items and members.
-/

set_option autoImplicit false

namespace HolderBond.Json

open HolderBond.Text (Glyph)

abbrev Input := List Glyph

/-- A reader: input to result and remaining input, or a cause of refusal. -/
abbrev Scan := StateT Input (Except Error)

namespace Scan

def fail {α : Type} (e : Error) : Scan α :=
  throw e

def isSpace : Glyph → Bool
  | .char c => c == ' ' || c == '\n' || c == '\t' || c == '\r'
  | .malformed _ => false

/-- The next glyph past any space; the space is consumed, the glyph is not. -/
def peek : Scan (Option Glyph) := do
  let rest := (← get).dropWhile isSpace
  set rest
  return rest.head?

def skip : Scan Unit :=
  modify (·.drop 1)

def word : List Char → Scan Unit
  | [] => return ()
  | c :: cs => do
      match ← get with
      | [] => fail .endInValue
      | g :: rest =>
          if g = .char c then
            set rest
            word cs
          else fail .expectedWord

/-! ## Strings -/

def hexValue? : Glyph → Option Nat
  | .char c => if c.toNat < 128 then Hex.value? (UInt8.ofNat c.toNat) else none
  | .malformed _ => none

def byteCount (input : Input) : Nat :=
  input.foldl (fun total g => total + g.byteLength) 0

/-- The number of four hexadecimal digits.  Fewer than four remaining bytes are an end of
input, whatever they are. -/
def fourDigits : Scan Nat := do
  let input ← get
  match input.take 4, (input.take 4).map hexValue? with
  | [_, _, _, _], [some a, some b, some c, some d] =>
      set (input.drop 4)
      return ((a * 16 + b) * 16 + c) * 16 + d
  | few, _ => fail (if few.length < 4 && byteCount few < 4 then .endInString else .badEscape)

def lowSurrogate (high : Nat) : Scan Char := do
  match ← get with
  | [] => fail .endInString
  | .char '\\' :: rest =>
      match rest with
      | [] => fail .endInString
      | .char 'u' :: rest =>
          set rest
          let low ← fourDigits
          if 0xDC00 ≤ low && low ≤ 0xDFFF then
            return Char.ofNat (0x10000 + (high - 0xD800) * 0x400 + (low - 0xDC00))
          else fail .loneSurrogate
      | _ :: _ => fail .unfinishedSurrogate
  | _ :: _ => fail .unfinishedSurrogate

def numbered : Scan Char := do
  let n ← fourDigits
  if 0xDC00 ≤ n && n ≤ 0xDFFF then fail .loneSurrogate
  else if 0xD800 ≤ n && n ≤ 0xDBFF then lowSurrogate n
  else return Char.ofNat n

def escapeLetter? (c : Char) : Option Char :=
  match c with
  | '"' => some '"'
  | '\\' => some '\\'
  | '/' => some '/'
  | 'b' => some (Char.ofNat 8)
  | 'f' => some (Char.ofNat 12)
  | 'n' => some '\n'
  | 'r' => some '\r'
  | 't' => some '\t'
  | _ => none

def escape : Scan Char := do
  match ← get with
  | [] => fail .endInString
  | .char 'u' :: rest =>
      set rest
      numbered
  | .char c :: rest =>
      match escapeLetter? c with
      | some d =>
          set rest
          return d
      | none => fail .badEscape
  | .malformed _ :: _ => fail .badEscape

/-- The rest of a string after its opening quote.  `seen` holds the characters so far, last
first; malformed bytes are refused only at the closing quote.  The first argument is the input
as it stood at the opening quote: each step takes at least one glyph, so when it has run out
nothing is left to read. -/
def stringRest : Input → Bool → List Char → Scan String
  | [], _, _ => fail .endInString
  | _ :: clock, wellFormed, seen => do
      match ← get with
      | [] => fail .endInString
      | .malformed _ :: rest =>
          set rest
          stringRest clock false seen
      | .char c :: rest =>
          set rest
          if c == '"' then
            if wellFormed then return String.ofList seen.reverse else fail .badCodePoint
          else if c == '\\' then
            let d ← escape
            stringRest clock wellFormed (d :: seen)
          else if c.toNat < 32 then fail .controlCharacter
          else stringRest clock wellFormed (c :: seen)

def stringBody : Scan String := do
  stringRest (← get) true []

/-! ## Numbers -/

def digit? : Glyph → Option Nat
  | .char c => if '0' ≤ c && c ≤ '9' then some (c.toNat - 48) else none
  | .malformed _ => none

def atDigit (input : Input) : Bool :=
  (input.head?.bind digit?).isSome

def digitRun : Input → List Nat × Input
  | [] => ([], [])
  | g :: rest =>
      match digit? g with
      | some d =>
          let (digits, left) := digitRun rest
          (d :: digits, left)
      | none => ([], g :: rest)

def someDigits : Scan (List Nat) := do
  let input ← get
  if atDigit input then
    let (digits, rest) := digitRun input
    set rest
    return digits
  else fail (if input.isEmpty then .endInValue else .badNumber)

/-- Whether the next glyph is one of some characters; it is consumed if so. -/
def accept (cs : List Char) : Scan (Option Char) := do
  match ← get with
  | .char c :: rest =>
      if cs.contains c then
        set rest
        return some c
      else return none
  | _ => return none

/-- The integer part: a single zero, or digits that begin with another one. -/
def integerPart : Scan (List Nat) := do
  let input ← get
  match input with
  | .char '0' :: rest =>
      if atDigit rest then fail .badNumber
      else
        set rest
        return [0]
  | _ => someDigits

def exponentPart : Scan (Option Int) := do
  if (← accept ['e', 'E']).isSome then
    let sign ← accept ['+', '-']
    let digits ← someDigits
    let n : Nat := digits.foldl (fun n d => n * 10 + d) 0
    return some (if sign == some '-' then -(n : Int) else n)
  else return none

def fractionPart : Scan (Option (List Nat)) := do
  if (← accept ['.']).isSome then some <$> someDigits else return none

/-- Digits put behind a number for as long as it fits 64 bits.  The first that does not fit is
dropped with all after it; how many these are is told besides. -/
def appendDigits (n : Nat) : List Nat → Nat × Nat
  | [] => (n, 0)
  | d :: ds =>
      if n * 10 + d < UInt64.size then appendDigits (n * 10 + d) ds else (n, ds.length + 1)

/-- About the number that a decimal stands for. -/
def floating (negative : Bool) (digits : Nat) (power : Int) : Scan JsonNumber :=
  match Binary64.approximate? negative digits power with
  | some x => return .float x
  | none => fail .numberOutOfRange

/-- An integer of 64 bits without its sign; a float if it does not fit with the sign, as is the
negative zero. -/
def integer (negative : Bool) (n : Nat) : Scan JsonNumber :=
  if negative then
    if small : 0 < n ∧ n - 1 < 0x8000000000000000 then return .negative ⟨n - 1, small.2⟩
    else floating true n 0
  else return .natural (UInt64.ofNat n)

/-- What the parts of a number mean.  Digits that were dropped before the point count in the
power of ten, digits that were dropped after it do not count at all. -/
def numberOf (negative : Bool) (whole : List Nat) (fraction : Option (List Nat))
    (exponent : Option Int) : Scan JsonNumber :=
  let (n, dropped) := appendDigits 0 whole
  match fraction, exponent with
  | none, none => if dropped = 0 then integer negative n else floating negative n dropped
  | _, _ =>
      let places := fraction.getD []
      let (digits, ignored) := appendDigits n places
      let power : Int := (dropped + ignored : Nat) - places.length
      floating negative digits (power + exponent.getD 0)

def number : Scan JsonNumber := do
  let negative := (← accept ['-']).isSome
  let whole ← integerPart
  let fraction ← fractionPart
  let exponent ← exponentPart
  numberOf negative whole fraction exponent

/-! ## Between the values -/

/-- Whether another item follows in an array; the comma before it is consumed. -/
def moreItems (first : Bool) : Scan Bool := do
  match ← peek with
  | none => fail .endInList
  | some (.char ']') => return false
  | some g =>
      if first then return true
      else if g = .char ',' then
        skip
        match ← peek with
        | none => fail .endInValue
        | some (.char ']') => fail .trailingComma
        | some _ => return true
      else fail .expectedListEnd

def endItems : Scan Unit := do
  match ← peek with
  | none => fail .endInList
  | some (.char ']') => skip
  | some (.char ',') =>
      skip
      match ← peek with
      | some (.char ']') => fail .trailingComma
      | _ => fail .trailingCharacters
  | some _ => fail .trailingCharacters

/-- Whether another member follows in an object: its opening quote is consumed, and so is
the brace that ends the object. -/
def moreMembers (first : Bool) : Scan Bool := do
  match ← peek with
  | none => fail .endInObject
  | some (.char '\x7d') =>
      skip
      return false
  | some g =>
      if first then
        if g = .char '"' then
          skip
          return true
        else fail .keyNotString
      else if g = .char ',' then
        skip
        match ← peek with
        | none => fail .endInValue
        | some (.char '"') =>
            skip
            return true
        | some (.char '\x7d') => fail .trailingComma
        | some _ => fail .keyNotString
      else fail .expectedObjectEnd

def colon : Scan Unit := do
  match ← peek with
  | none => fail .endInObject
  | some (.char ':') => skip
  | some _ => fail .expectedColon

/-- All items of an array after its opening bracket, with the closing one.  The recursion is on
the input as it stood at the bracket, since each item takes at least one glyph. -/
def itemsWithin {α : Type} (item : Scan α) : Input → Bool → Scan (List α)
  | [], _ => fail .endInList
  | _ :: clock, first => do
      if ← moreItems first then
        let a ← item
        let rest ← itemsWithin item clock false
        return a :: rest
      else
        skip
        return []

def items {α : Type} (item : Scan α) : Scan (List α) := do
  itemsWithin item (← get) true

/-- All members of an object after its opening brace, each folded into a state by a reader
that is given the key and consumes the colon and the value.  The recursion is on the input as
it stood at the brace, since each member takes at least one glyph. -/
def membersWithin {σ : Type} (member : String → σ → Scan σ) : Input → Bool → σ → Scan σ
  | [], _, _ => fail .endInObject
  | _ :: clock, first, state => do
      if ← moreMembers first then
        let key ← stringBody
        let state ← member key state
        membersWithin member clock false state
      else return state

def members {σ : Type} (member : String → σ → Scan σ) (state : σ) : Scan σ := do
  membersWithin member (← get) true state

def finish : Scan Unit := do
  match ← peek with
  | none => return ()
  | some _ => fail .trailingCharacters

def run {α : Type} (read : Scan α) (input : Input) : Except Error α :=
  (do
    let a ← read
    finish
    return a : Scan α).run' input

end Scan

end HolderBond.Json
