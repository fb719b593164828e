import HolderBond.Url.Address
import HolderBond.Url.Domain.Basic
import HolderBond.Text.Blank

/-!
# Links

What a link must be to be one: a scheme and, where the scheme calls for it, a host and a
port that are in order.  Of what it holds only the scheme and the query are kept; path and
fragment are free.
-/

set_option autoImplicit false

namespace HolderBond

structure Url where
  scheme : String
  /-- What stands between the first question mark and the fragment. -/
  query : Option (List Char)

namespace Url

inductive Error where
  | noScheme
  | emptyHost
  | badPort
  | badFourByteAddress
  | badGroupedAddress
  /-- A character that may not stand in a host of a scheme without rules of its own. -/
  | badHost
  | badDomain
  deriving DecidableEq, Repr

def Error.message : Error → String
  | .noScheme => "relative URL without a base"
  | .emptyHost => "empty host"
  | .badPort => "invalid port number"
  | .badFourByteAddress => "invalid IPv4 address"
  | .badGroupedAddress => "invalid IPv6 address"
  | .badHost => "invalid domain character"
  | .badDomain => "invalid international domain name"

/-! ## Text before its parts -/

/-- Spaces and control characters, which may surround a link. -/
def isMargin (c : Char) : Bool :=
  c.toNat ≤ 32

/-- Tabs and line ends, which count for nothing wherever they stand. -/
def isIgnored (c : Char) : Bool :=
  c == '\t' || c == '\n' || c == '\r'

def countedChars (s : String) : List Char :=
  (Text.dropTrailing isMargin (s.toList.dropWhile isMargin)).filter fun c => !isIgnored c

/-! ## Scheme -/

def isSchemeChar (c : Char) : Bool :=
  c.isAlphanum || c == '+' || c == '-' || c == '.'

def splitScheme? : List Char → Option (List Char × List Char)
  | [] => none
  | c :: rest =>
      if c.isAlpha then
        match rest.dropWhile isSchemeChar with
        | ':' :: after => some ((c :: rest.takeWhile isSchemeChar).map Char.toLower, after)
        | _ => none
      else none

/-- How a scheme treats what follows it. -/
inductive SchemeKind where
  /-- There is a host, however many slashes come before it. -/
  | web
  /-- There is a host after two slashes only, and it may be empty. -/
  | file
  /-- Nothing is known about the scheme. -/
  | other
  deriving DecidableEq

def SchemeKind.ofScheme (scheme : String) : SchemeKind :=
  if ["http", "https", "ws", "wss", "ftp"].contains scheme then .web
  else if scheme = "file" then .file
  else .other

def isSlash (c : Char) : Bool :=
  c == '/' || c == '\\'

/-- Whether a character ends the part of a link that names the host. -/
def endsAuthority (kind : SchemeKind) (c : Char) : Bool :=
  c == '/' || c == '?' || c == '#' || (c == '\\' && kind != .other)

/-! ## Host and port -/

def checkBracketed (rest : List Char) : Except Error Unit :=
  match rest.reverse with
  | ']' :: inside =>
      if isGroupedAddress inside.reverse then .ok () else .error .badGroupedAddress
  | _ => .error .badGroupedAddress

def checkHost : List Char → Except Error Unit
  | '[' :: rest => checkBracketed rest
  | host =>
      match Domain.ofBytes? (percentDecode (Text.utf8Chars host)) with
      | none => .error .badDomain
      | some name =>
          if name.isEmpty then .error .emptyHost
          else if endsInNumber name && !isFourByteAddress name then .error .badFourByteAddress
          else .ok ()

def isForbiddenInHost (c : Char) : Bool :=
  c.toNat == 0 || ['\t', '\n', '\r', ' ', '#', '/', ':', '<', '>', '?', '@', '[', '\\', ']', '^',
    '|'].contains c

def checkUnknownHost : List Char → Except Error Unit
  | '[' :: rest => checkBracketed rest
  | host => if host.any isForbiddenInHost then .error .badHost else .ok ()

def checkPort (digits : List Char) : Except Error Unit :=
  match digitsValue? 10 digits with
  | some port => if port < UInt16.size then .ok () else .error .badPort
  | none => .error .badPort

def splitHost (inBrackets : Bool) : List Char → List Char × List Char
  | [] => ([], [])
  | c :: rest =>
      if c == ':' && !inBrackets then ([], c :: rest)
      else
        let (host, after) := splitHost (c == '[' || (inBrackets && c != ']')) rest
        (c :: host, after)

/-- Host and port; `named` says that a user stands before them. -/
def checkHostAndPort (kind : SchemeKind) (named : Bool) (part : List Char) :
    Except Error Unit := do
  let (host, after) := splitHost false part
  if kind = .web then
    if host.isEmpty then throw .emptyHost
    checkHost host
  else
    checkUnknownHost host
    if host.isEmpty && !after.isEmpty then throw .emptyHost
  match after with
  | [] => pure ()
  | _ :: digits => checkPort (digits.takeWhile (· != '\\'))
  if host.isEmpty && named then throw .emptyHost

/-- What stands before the last `@`, if there is one, and what stands after it. -/
def splitUser (part : List Char) : Option (List Char) × List Char :=
  match part.reverse.dropWhile (· != '@') with
  | _ :: user => (some user.reverse, (part.reverse.takeWhile (· != '@')).reverse)
  | [] => (none, part)

/-- The part of a link that names the host, after its slashes. -/
def checkAuthority (kind : SchemeKind) (rest : List Char) : Except Error Unit :=
  let part := rest.takeWhile fun c => !endsAuthority kind c
  let bare := part.length = rest.length
  match splitUser part with
  | (none, part) => checkHostAndPort kind false part
  | (some [], []) =>
      if bare then checkHostAndPort kind false [] else .error .emptyHost
  | (some user, part) => checkHostAndPort kind (!user.isEmpty && user != [':']) part

/-! ## The whole -/

def isDrive : List Char → Bool
  | [c, mark] => c.isAlpha && (mark == ':' || mark == '|')
  | _ => false

/-- What follows the colon of the scheme, fragment and query included. -/
def checkRest (kind : SchemeKind) (rest : List Char) : Except Error Unit :=
  match kind with
  | .web => checkAuthority kind (rest.dropWhile isSlash)
  | .other =>
      match rest with
      | '/' :: '/' :: rest => checkAuthority kind rest
      | _ => .ok ()
  | .file =>
      match rest with
      | a :: b :: rest =>
          if isSlash a && isSlash b then
            let host := rest.takeWhile fun c => !endsAuthority kind c
            if host.isEmpty || isDrive host then .ok () else checkHost host
          else .ok ()
      | _ => .ok ()

def queryOf? (rest : List Char) : Option (List Char) :=
  match (rest.takeWhile (· != '#')).dropWhile (· != '?') with
  | _ :: query => some query
  | [] => none

def read (s : String) : Except Error Url := do
  match splitScheme? (countedChars s) with
  | none => throw .noScheme
  | some (scheme, rest) =>
      let scheme := String.ofList scheme
      checkRest (SchemeKind.ofScheme scheme) rest
      return ⟨scheme, queryOf? rest⟩

def pairs (url : Url) : List (String × String) :=
  formPairs (url.query.getD [])

end Url

end HolderBond
