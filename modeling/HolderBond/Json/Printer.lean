import HolderBond.Byte.Hex
import HolderBond.Decimal.Shortest
import HolderBond.Json.Basic

/-!
# JSON text

The compact form has no space at all; the spread-out form puts every item on a line of its
own, two spaces deeper than its container.  Both escape the same characters.
-/

set_option autoImplicit false

namespace HolderBond.Json

/-- Numbers with a decimal exponent from -5 to 15 are written positionally and always with
a fraction; all others with a signed exponent. -/
def floatLayout : Shortest.Layout :=
  { lowest := -5, highest := 15, wholeEnd := ['.', '0'], mark := 'e', plus := ['+'] }

def naturalChars (n : Nat) : List Char :=
  Nat.toDigits 10 n

def numberChars : JsonNumber → List Char
  | .natural n => naturalChars n.toNat
  | .negative k => '-' :: naturalChars (k.val + 1)
  | .float x => floatLayout.write x

/-- The writing of one character inside a string: only the quote, the backslash and the
controls below the space are escaped. -/
def escapeChar (c : Char) : List Char :=
  if c == '"' then ['\\', '"']
  else if c == '\\' then ['\\', '\\']
  else if c.toNat == 8 then ['\\', 'b']
  else if c.toNat == 9 then ['\\', 't']
  else if c.toNat == 10 then ['\\', 'n']
  else if c.toNat == 12 then ['\\', 'f']
  else if c.toNat == 13 then ['\\', 'r']
  else if c.toNat < 32 then
    ['\\', 'u', '0', '0', Hex.digit (c.toNat / 16), Hex.digit (c.toNat % 16)]
  else [c]

def stringChars (s : String) : List Char :=
  '"' :: s.toList.flatMap escapeChar ++ ['"']

mutual

def chars : Json → List Char
  | .null => ['n', 'u', 'l', 'l']
  | .bool true => ['t', 'r', 'u', 'e']
  | .bool false => ['f', 'a', 'l', 's', 'e']
  | .number n => numberChars n
  | .string s => stringChars s
  | .array [] => ['[', ']']
  | .array (x :: xs) => '[' :: chars x ++ itemsChars xs
  | .object [] => ['\x7b', '\x7d']
  | .object ((k, v) :: ms) => '\x7b' :: stringChars k ++ ':' :: chars v ++ membersChars ms

/-- The items after the first, and the end of the array. -/
def itemsChars : List Json → List Char
  | [] => [']']
  | x :: xs => ',' :: chars x ++ itemsChars xs

def membersChars : List (String × Json) → List Char
  | [] => ['\x7d']
  | (k, v) :: ms => ',' :: stringChars k ++ ':' :: chars v ++ membersChars ms

end

def render (j : Json) : String :=
  String.ofList j.chars

def lineBreak (depth : Nat) : List Char :=
  '\n' :: List.replicate (2 * depth) ' '

mutual

/-- The spread-out form of a tree that stands at some depth. -/
def prettyChars (depth : Nat) : Json → List Char
  | .array [] => ['[', ']']
  | .array (x :: xs) =>
      '[' :: lineBreak (depth + 1) ++ prettyChars (depth + 1) x ++ prettyItems depth xs
  | .object [] => ['\x7b', '\x7d']
  | .object ((k, v) :: ms) =>
      '\x7b' :: lineBreak (depth + 1) ++ stringChars k ++ ':' :: ' ' ::
        prettyChars (depth + 1) v ++ prettyMembers depth ms
  | .null => ['n', 'u', 'l', 'l']
  | .bool true => ['t', 'r', 'u', 'e']
  | .bool false => ['f', 'a', 'l', 's', 'e']
  | .number n => numberChars n
  | .string s => stringChars s

def prettyItems (depth : Nat) : List Json → List Char
  | [] => lineBreak depth ++ [']']
  | x :: xs => ',' :: lineBreak (depth + 1) ++ prettyChars (depth + 1) x ++ prettyItems depth xs

def prettyMembers (depth : Nat) : List (String × Json) → List Char
  | [] => lineBreak depth ++ ['\x7d']
  | (k, v) :: ms =>
      ',' :: lineBreak (depth + 1) ++ stringChars k ++ ':' :: ' ' ::
        prettyChars (depth + 1) v ++ prettyMembers depth ms

end

def pretty (j : Json) : String :=
  String.ofList (j.prettyChars 0)

end HolderBond.Json
