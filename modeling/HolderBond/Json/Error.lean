import HolderBond.Json.Printer
import HolderBond.Text.Quoted

/-!
# Why a JSON document is refused

Faults of syntax, and faults of content: a value of the wrong kind, out of range or of the
wrong length, a member missing or repeated.  One function words them all.
-/

set_option autoImplicit false

namespace HolderBond.Json

inductive Found where
  | null
  | bool (b : Bool)
  | number (n : JsonNumber)
  | string (s : String)
  | sequence
  | map
  deriving DecidableEq

def Found.words : Found → String
  | .null => "null"
  | .bool true => "boolean `true`"
  | .bool false => "boolean `false`"
  | .number n =>
      let shown := String.ofList (numberChars n)
      match n with
      | .float _ => s!"floating point `{shown}`"
      | _ => s!"integer `{shown}`"
  | .string s => "string " ++ Text.quoted s
  | .sequence => "sequence"
  | .map => "map"

def found : Json → Found
  | .null => .null
  | .bool b => .bool b
  | .number n => .number n
  | .string s => .string s
  | .array _ => .sequence
  | .object _ => .map

inductive Error where
  | endInList
  | endInObject
  | endInString
  | endInValue
  | expectedColon
  | expectedListEnd
  | expectedObjectEnd
  | expectedWord
  | expectedValue
  | badEscape
  | badNumber
  | numberOutOfRange
  | badCodePoint
  | controlCharacter
  | keyNotString
  | loneSurrogate
  | unfinishedSurrogate
  | trailingComma
  | trailingCharacters
  | tooDeep
  | wrongKind (met : Found) (expected : String)
  | wrongValue (met : Found) (expected : String)
  | wrongLength (length : Nat) (expected : String)
  | missingField (key : String)
  | duplicateField (key : String)
  | unknownVariant (name : String) (choices : List String)
  | badText (cause : String)
  deriving DecidableEq

/-- Names between backquotes, the last two joined by `or`. -/
def choiceWords : List String → String
  | [] => ""
  | [a] => s!"`{a}`"
  | a :: rest => rest.foldl (fun text name => s!"{text} or `{name}`") s!"`{a}`"

def Error.message : Error → String
  | .endInList => "EOF while parsing a list"
  | .endInObject => "EOF while parsing an object"
  | .endInString => "EOF while parsing a string"
  | .endInValue => "EOF while parsing a value"
  | .expectedColon => "expected `:`"
  | .expectedListEnd => "expected `,` or `]`"
  | .expectedObjectEnd => "expected `,` or `\x7d`"
  | .expectedWord => "expected ident"
  | .expectedValue => "expected value"
  | .badEscape => "invalid escape"
  | .badNumber => "invalid number"
  | .numberOutOfRange => "number out of range"
  | .badCodePoint => "invalid unicode code point"
  | .controlCharacter => "control character (\\u0000-\\u001F) found while parsing a string"
  | .keyNotString => "key must be a string"
  | .loneSurrogate => "lone leading surrogate in hex escape"
  | .unfinishedSurrogate => "unexpected end of hex escape"
  | .trailingComma => "trailing comma"
  | .trailingCharacters => "trailing characters"
  | .tooDeep => "recursion limit exceeded"
  | .wrongKind met expected =>
      let words := met.words
      s!"invalid type: {words}, expected {expected}"
  | .wrongValue met expected =>
      let words := met.words
      s!"invalid value: {words}, expected {expected}"
  | .wrongLength length expected => s!"invalid length {length}, expected {expected}"
  | .missingField key => s!"missing field `{key}`"
  | .duplicateField key => s!"duplicate field `{key}`"
  | .unknownVariant name choices =>
      let words := choiceWords choices
      s!"unknown variant `{name}`, expected {words}"
  | .badText cause => cause

end HolderBond.Json
