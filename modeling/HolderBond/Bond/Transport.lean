import HolderBond.Bond.Basic
import HolderBond.Shape.Reader
import HolderBond.Store.Error

/-!
# Bonds in links

A bond travels as the base64 of its compact text, in the URL alphabet and without padding.
Reading accepts either alphabet and any padding, so that a bond survives what mail programs
and forms do to it.
-/

set_option autoImplicit false

namespace HolderBond

namespace Bond

def encode (bond : Bond) : String :=
  Base64Url.encode (Text.utf8 (Bond.shape.render bond))

def urlSymbol (c : Char) : Char :=
  if c == '+' then '-' else if c == '/' then '_' else c

/-- The symbols of a transport form in the URL alphabet, without blanks around them. -/
def normalSymbols (encoded : String) : String :=
  String.ofList ((Text.trimChars encoded.toList).map urlSymbol)

def decode (encoded : String) : Except StoreError Bond :=
  match Base64Url.decode (normalSymbols encoded) with
  | .error cause => .error (.decoding cause)
  | .ok bytes => (Bond.shape.readBytes bytes).mapError .serialization

def linkPath : String :=
  "/verify-bond"

def linkParameter : String :=
  "proof"

def withoutSlashes (base : String) : String :=
  String.ofList (Text.dropTrailing (· == '/') base.toList)

def link (base : String) (bond : Bond) : String :=
  withoutSlashes base ++ linkPath ++ "?" ++ linkParameter ++ "=" ++ bond.encode

/-- The transport form in a link: the first parameter of the right name.  Forms turn plus
signs into blanks, which occur nowhere in it, so blanks are turned back. -/
def ofLink (link : String) : Except LinkError String :=
  match Url.read (Text.trim link) with
  | .error cause => .error (.badUrl cause)
  | .ok url =>
      match url.pairs.find? fun pair => pair.1 == linkParameter with
      | none => .error .noProof
      | some (_, value) =>
          let encoded := String.ofList (value.toList.map fun c => if c == ' ' then '+' else c)
          if encoded.isEmpty then .error .noProof else .ok encoded

end Bond

end HolderBond
