import HolderBond.Text.Pieces
import HolderBond.Text.Utf8
import HolderBond.Url.Domain.Direction
import HolderBond.Url.Domain.Joining
import HolderBond.Url.Domain.Punycode

/-!
# Domain names

A domain name in any script, its characters replaced by what they become, and its encoded
labels decoded.  Only then are the labels checked, so that both ways to write a name are held
to the same rules.
-/

set_option autoImplicit false

namespace HolderBond.Url.Domain

def isForbidden (c : Char) : Bool :=
  c.toNat ≤ 32 || c.toNat == 127 ||
    ['#', '%', '/', ':', '<', '>', '?', '@', '[', '\\', ']', '^', '|'].contains c

def isAscii (c : Char) : Bool :=
  c.toNat < 128

def replaced? : List Char → Option (List Char)
  | [] => some []
  | c :: rest =>
      match formOf c with
      | .stays => (c :: ·) <$> replaced? rest
      | .folds => (c :: ·) <$> replaced? rest
      | .becomes text => (text.toList ++ ·) <$> replaced? rest
      | .refused => none

/-- Joins the signs of comparison with a stroke after them, the only characters whose
composition makes a name of what is none. -/
def composed : List Char → List Char
  | '<' :: '\u0338' :: rest => '\u226e' :: composed rest
  | '>' :: '\u0338' :: rest => '\u226f' :: composed rest
  | c :: rest => c :: composed rest
  | [] => []

def maxLabelLength : Nat := 1000

def maxEncodingLength : Nat := 2000

/-- Whether a label outside ASCII begins with no mark, and has its joiners where they may be. -/
def isWellFormed (label : List Char) : Bool :=
  !(label.head?.any Text.isMark) && joinersFit [] label

/-- The label of an encoding, whose characters have to stay as they are and to need the
encoding. -/
def decodedLabel? (encoding : List Char) : Option (List Char) := do
  guard (encoding.length ≤ maxEncodingLength && encoding.all isAscii)
  let label ← Punycode.decode encoding
  guard (label.any (!isAscii ·) && label.all (formOf · == .stays) && isWellFormed label)
  return label

def label? (written : List Char) : Option (List Char) :=
  match written with
  | 'x' :: 'n' :: '-' :: '-' :: encoding => decodedLabel? encoding
  | _ =>
      if written.all isAscii || (written.length ≤ maxLabelLength && isWellFormed written) then
        some written
      else none

def ofBytes? (bytes : List UInt8) : Option (List Char) := do
  let text ← Text.ofUtf8? bytes
  let name := composed (← replaced? text.toList)
  guard (!name.any isForbidden)
  let labels ← (Text.piecesBetween '.' name).mapM label?
  guard (labelsKeepOrder labels)
  return ['.'].intercalate labels

end HolderBond.Url.Domain
