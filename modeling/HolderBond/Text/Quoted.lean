import HolderBond.Text.Unprinted

/-!
# Quoted text

How messages show a text or a character that they talk about: between quotes, with the
enclosing quote, the backslash and a few controls escaped by a letter, and every character
without a printed form escaped by its code point.
-/

set_option autoImplicit false

namespace HolderBond.Text

def hexDigits (n : Nat) : List Char :=
  Nat.toDigits 16 n

/-- One character inside quotes drawn with `quote`. -/
def quoteChar (quote c : Char) : List Char :=
  if c == quote || c == '\\' then ['\\', c]
  else if c == '\n' then ['\\', 'n']
  else if c == '\r' then ['\\', 'r']
  else if c == '\t' then ['\\', 't']
  else if c.toNat == 0 then ['\\', '0']
  else if isUnprinted c then '\\' :: 'u' :: '\x7b' :: hexDigits c.toNat ++ ['\x7d']
  else [c]

def quoted (s : String) : String :=
  String.ofList ('"' :: s.toList.flatMap (quoteChar '"') ++ ['"'])

def quotedChar (c : Char) : String :=
  String.ofList ('\'' :: quoteChar '\'' c ++ ['\''])

end HolderBond.Text
