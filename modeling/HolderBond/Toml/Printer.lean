import HolderBond.Byte.Hex

/-!
# Writing strings of settings files

A string is written between double quotes if nothing in it needs an escape; otherwise
between single quotes, in three double quotes or in three single quotes, the first of these
that needs no escape; and with escapes if none does.
-/

set_option autoImplicit false

namespace HolderBond.Toml

/-- Whether a character can be written as an escape only: a control character other than
tab and line feed. -/
def needsEscape (c : Char) : Bool :=
  (c.toNat < 32 || c.toNat == 127) && c != '\t' && c != '\n'

def longestRun (quote : Char) : Nat → List Char → Nat
  | current, [] => current
  | current, c :: rest =>
      if c = quote then longestRun quote (current + 1) rest
      else max current (longestRun quote 0 rest)

def escaped (c : Char) : List Char :=
  if c.toNat == 8 then ['\\', 'b']
  else if c == '\t' then ['\\', 't']
  else if c == '\n' then ['\\', 'n']
  else if c.toNat == 12 then ['\\', 'f']
  else if c == '\r' then ['\\', 'r']
  else if c == '"' then ['\\', '"']
  else if c == '\\' then ['\\', '\\']
  else
    ['\\', 'u', '0', '0', (Hex.digit (c.toNat / 16)).toUpper, (Hex.digit (c.toNat % 16)).toUpper]

/-- Characters between double quotes, of which `allowed` may stand together; `run` of them
have just been written. -/
def escapedChars (allowed : Nat) (multiline : Bool) : Nat → List Char → List Char
  | _, [] => []
  | run, c :: rest =>
      if c = '"' then
        if allowed < run + 1 then escaped c ++ escapedChars allowed multiline 0 rest
        else c :: escapedChars allowed multiline (run + 1) rest
      else if c = '\n' && multiline then c :: escapedChars allowed multiline 0 rest
      else if c.toNat < 32 || c.toNat == 127 || c == '\\' then
        escaped c ++ escapedChars allowed multiline 0 rest
      else c :: escapedChars allowed multiline 0 rest

def basicChars (cs : List Char) : List Char :=
  '"' :: escapedChars 0 false 0 cs ++ ['"']

def literalChars (cs : List Char) : List Char :=
  '\'' :: cs ++ ['\'']

/-- What comes after three opening quotes: a line end, which does not count, if the text
has several lines. -/
def firstLineEnd (cs : List Char) : List Char :=
  if cs.contains '\n' then ['\n'] else []

def longBasicChars (cs : List Char) : List Char :=
  ['"', '"', '"'] ++ firstLineEnd cs ++ escapedChars 2 true 0 cs ++ ['"', '"', '"']

def longLiteralChars (cs : List Char) : List Char :=
  ['\'', '\'', '\''] ++ firstLineEnd cs ++ cs ++ ['\'', '\'', '\'']

def stringChars (cs : List Char) : List Char :=
  let control := cs.any needsEscape
  let backslash := cs.contains '\\'
  let double := longestRun '"' 0 cs
  let single := longestRun '\'' 0 cs
  let lines := cs.contains '\n'
  if !control && !backslash && double == 0 && !lines then basicChars cs
  else if !control && single == 0 && !lines then literalChars cs
  else if !control && !backslash && double ≤ 2 then longBasicChars cs
  else if !control && single ≤ 2 then longLiteralChars cs
  else if lines then longBasicChars cs
  else basicChars cs

def quoted (s : String) : String :=
  String.ofList (stringChars s.toList)

end HolderBond.Toml
