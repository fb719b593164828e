import HolderBond.Decimal.Binary64
import HolderBond.Toml.Basic

/-!
# The pieces of settings files

Blanks, comments, the four kinds of strings, numbers, dates and times.  Nothing is reported
about a fault but that there is one.
-/

set_option autoImplicit false

namespace HolderBond.Toml

/-- A reader of some characters: what it found and what is left. -/
abbrev Scan := StateT (List Char) Option

/-! ## Blanks and comments -/

def isBlank (c : Char) : Bool :=
  c == ' ' || c == '\t'

/-- What may stand in comments and literal strings: no control character but the tab. -/
def isPrinted (c : Char) : Bool :=
  c == '\t' || (32 ≤ c.toNat && c.toNat != 127)

def afterNewline? : List Char → Option (List Char)
  | '\n' :: rest => some rest
  | '\r' :: '\n' :: rest => some rest
  | _ => none

def Scan.peek : Scan (Option Char) :=
  return (← get).head?

def Scan.char (c : Char) : Scan Unit := do
  match ← get with
  | d :: rest => if d = c then set rest else failure
  | [] => failure

def Scan.accept (c : Char) : Scan Bool := do
  match ← get with
  | d :: rest =>
      if d = c then
        set rest
        return true
      else return false
  | [] => return false

def Scan.blanks : Scan Unit :=
  modify (·.dropWhile isBlank)

def Scan.newline : Scan Unit := do
  match afterNewline? (← get) with
  | some rest => set rest
  | none => failure

def Scan.comment : Scan Unit := do
  if ← accept '#' then modify (·.dropWhile isPrinted)

def Scan.lineEnd : Scan Unit := do
  blanks
  comment
  if (← get).isEmpty then return () else newline

def Scan.gapWithin : Nat → Scan Unit
  | 0 => return ()
  | bound + 1 => do
      blanks
      match ← peek with
      | some '#' =>
          comment
          newline
          gapWithin bound
      | some '\n' | some '\r' =>
          newline
          gapWithin bound
      | _ => return ()

def Scan.gap : Scan Unit := do
  gapWithin ((← get).length + 1)

/-! ## Strings -/

def hexValue? (c : Char) : Option Nat :=
  let n := c.toNat
  if 48 ≤ n && n ≤ 57 then some (n - 48)
  else if 97 ≤ n && n ≤ 102 then some (n - 87)
  else if 65 ≤ n && n ≤ 70 then some (n - 55)
  else none

/-- The number that some digits write, if all of them are digits of the base. -/
def digitsValue? (base : Nat) (digits : List Char) : Option Nat :=
  digits.foldlM (fun total c => (hexValue? c).bind fun d =>
    if d < base then some (total * base + d) else none) 0

def numbered? (digits : List Char) : Option Char := do
  let n ← digitsValue? 16 digits
  if n < 0xD800 || (0xDFFF < n && n < 0x110000) then some (Char.ofNat n) else none

def escapeLetter? (c : Char) : Option Char :=
  match c with
  | 'b' => some (Char.ofNat 8)
  | 't' => some '\t'
  | 'n' => some '\n'
  | 'f' => some (Char.ofNat 12)
  | 'r' => some '\r'
  | '"' => some '"'
  | '\\' => some '\\'
  | _ => none

def isUnescaped (c : Char) : Bool :=
  isPrinted c && c != '"' && c != '\\'

def basicRest : List Char → Option (List Char × List Char)
  | [] => none
  | '"' :: rest => some ([], rest)
  | '\\' :: 'u' :: a :: b :: c :: d :: rest => do
      let x ← numbered? [a, b, c, d]
      let (more, left) ← basicRest rest
      some (x :: more, left)
  | '\\' :: 'U' :: a :: b :: c :: d :: e :: f :: g :: h :: rest => do
      let x ← numbered? [a, b, c, d, e, f, g, h]
      let (more, left) ← basicRest rest
      some (x :: more, left)
  | '\\' :: letter :: rest => do
      let x ← escapeLetter? letter
      let (more, left) ← basicRest rest
      some (x :: more, left)
  | c :: rest => do
      guard (isUnescaped c)
      let (more, left) ← basicRest rest
      some (c :: more, left)

def literalRest : List Char → Option (List Char × List Char)
  | [] => none
  | '\'' :: rest => some ([], rest)
  | c :: rest => do
      guard (isPrinted c)
      let (more, left) ← literalRest rest
      some (c :: more, left)

/-- Where a string ends whose last three quotes have been read: up to two more belong to it. -/
def closing (quote : Char) : List Char → List Char × List Char
  | a :: b :: rest =>
      if a = quote && b = quote then ([quote, quote], rest)
      else if a = quote then ([quote], b :: rest)
      else ([], a :: b :: rest)
  | [a] => if a = quote then ([quote], []) else ([], [a])
  | [] => ([], [])

/-- Whether a backslash before some characters joins lines. -/
def joinsLines (rest : List Char) : Bool :=
  (afterNewline? (rest.dropWhile isBlank)).isSome

/-- The rest of a string in three double quotes, and what is left; `joining` says that blanks
and line ends are being passed over. -/
def longBasicRest : Bool → List Char → Option (List Char × List Char)
  | _, [] => none
  | _, '"' :: '"' :: '"' :: rest => some (closing '"' rest)
  | joining, '\r' :: '\n' :: rest => do
      let (more, left) ← longBasicRest joining rest
      some (if joining then more else '\n' :: more, left)
  | _, '\\' :: 'u' :: a :: b :: c :: d :: rest => do
      let x ← numbered? [a, b, c, d]
      let (more, left) ← longBasicRest false rest
      some (x :: more, left)
  | _, '\\' :: 'U' :: a :: b :: c :: d :: e :: f :: g :: h :: rest => do
      let x ← numbered? [a, b, c, d, e, f, g, h]
      let (more, left) ← longBasicRest false rest
      some (x :: more, left)
  | _, '\\' :: letter :: rest =>
      if joinsLines (letter :: rest) then longBasicRest true (letter :: rest)
      else do
        let x ← escapeLetter? letter
        let (more, left) ← longBasicRest false rest
        some (x :: more, left)
  | joining, c :: rest =>
      if joining && (isBlank c || c == '\n') then longBasicRest true rest
      else do
        guard (c == '"' || c == '\n' || isUnescaped c)
        let (more, left) ← longBasicRest false rest
        some (c :: more, left)

def longLiteralRest : List Char → Option (List Char × List Char)
  | [] => none
  | '\'' :: '\'' :: '\'' :: rest => some (closing '\'' rest)
  | '\r' :: '\n' :: rest => do
      let (more, left) ← longLiteralRest rest
      some ('\n' :: more, left)
  | c :: rest => do
      guard (c == '\n' || isPrinted c)
      let (more, left) ← longLiteralRest rest
      some (c :: more, left)

/-- What is left after a line end right behind three quotes. -/
def withoutNewline (rest : List Char) : List Char :=
  (afterNewline? rest).getD rest

def string? : List Char → Option (List Char × List Char)
  | '"' :: '"' :: '"' :: rest => longBasicRest false (withoutNewline rest)
  | '"' :: rest => basicRest rest
  | '\'' :: '\'' :: '\'' :: rest => longLiteralRest (withoutNewline rest)
  | '\'' :: rest => literalRest rest
  | _ => none

/-! ## Keys -/

def isBareKeyChar (c : Char) : Bool :=
  c.isAlphanum || c == '-' || c == '_'

def Scan.keyPart : Scan String := do
  match ← get with
  | '"' :: rest =>
      let some (more, left) := basicRest rest | failure
      set left
      return String.ofList more
  | '\'' :: rest =>
      let some (more, left) := literalRest rest | failure
      set left
      return String.ofList more
  | input =>
      let bare := input.takeWhile isBareKeyChar
      if bare.isEmpty then failure
      else
        set (input.drop bare.length)
        return String.ofList bare

def Scan.keyWithin : Nat → Scan (List String)
  | 0 => failure
  | bound + 1 => do
      blanks
      let part ← keyPart
      blanks
      if ← accept '.' then
        let parts ← keyWithin bound
        return part :: parts
      else return [part]

def maxDepth : Nat := 80

def Scan.key : Scan (List String) :=
  keyWithin (maxDepth - 1)

/-! ## Numbers -/

/-- Digits, each but the first with an underscore before it if need be, and what is left. -/
def digitsAfter (isDigit : Char → Bool) : List Char → Option (List Char × List Char)
  | [] => some ([], [])
  | '_' :: d :: rest =>
      if isDigit d then do
        let (digits, left) ← digitsAfter isDigit rest
        some (d :: digits, left)
      else none
  | c :: rest =>
      if isDigit c then do
        let (digits, left) ← digitsAfter isDigit rest
        some (c :: digits, left)
      else if c == '_' then none
      else some ([], c :: rest)

def someDigits (isDigit : Char → Bool) : List Char → Option (List Char × List Char)
  | c :: rest => if isDigit c then digitsAfter isDigit (c :: rest) else none
  | [] => none

def wholeDigits : List Char → Option (List Char × List Char)
  | '0' :: rest => some (['0'], rest)
  | input => someDigits Char.isDigit input

def integer? (negative : Bool) (base : Nat) (digits : List Char) : Option Toml := do
  let n ← digitsValue? base digits
  if negative then if n ≤ 0x8000000000000000 then some (.integer (-(n : Int))) else none
  else if n < 0x8000000000000000 then some (.integer n) else none

def basedInteger? (base : Nat) (rest : List Char) : Option (Toml × List Char) := do
  let (digits, left) ← someDigits (fun c => (digitsValue? base [c]).isSome) rest
  let value ← integer? false base digits
  some (value, left)

def fraction? : List Char → Option (Option (List Char) × List Char)
  | '.' :: rest => (someDigits Char.isDigit rest).map fun (digits, left) => (some digits, left)
  | rest => some (none, rest)

def exponent? : List Char → Option (Option Int × List Char)
  | c :: rest =>
      if c == 'e' || c == 'E' then do
        let (negative, rest) := match rest with
          | '-' :: rest => (true, rest)
          | '+' :: rest => (false, rest)
          | rest => (false, rest)
        let (digits, left) ← someDigits Char.isDigit rest
        let n ← digitsValue? 10 digits
        some (some (if negative then -(n : Int) else n), left)
      else some (none, c :: rest)
  | [] => some (none, [])

/-- A decimal number after its sign.  One that is too large to be finite is refused, but a
negative one is not. -/
def decimal? (negative : Bool) (input : List Char) : Option (Toml × List Char) := do
  let (whole, rest) ← wholeDigits input
  let (fraction, rest) ← fraction? rest
  let (exponent, left) ← exponent? rest
  if fraction.isNone && exponent.isNone then
    let value ← integer? negative 10 whole
    some (value, left)
  else
    let places := fraction.getD []
    let digits ← digitsValue? 10 (whole ++ places)
    let power := exponent.getD 0 - places.length
    if negative || (Binary64.nearestDecimal? false digits power).isSome then some (.float, left)
    else none

/-- A number that is none of the usual ones, after its sign. -/
def special? : List Char → Option (Toml × List Char)
  | 'i' :: 'n' :: 'f' :: left => some (.float, left)
  | 'n' :: 'a' :: 'n' :: left => some (.float, left)
  | _ => none

def number? : List Char → Option (Toml × List Char)
  | '0' :: 'x' :: rest => basedInteger? 16 rest
  | '0' :: 'o' :: rest => basedInteger? 8 rest
  | '0' :: 'b' :: rest => basedInteger? 2 rest
  | '+' :: rest => (special? rest).orElse fun _ => decimal? false rest
  | '-' :: rest => (special? rest).orElse fun _ => decimal? true rest
  | rest => decimal? false rest

/-! ## Dates and times -/

def twoDigits? (low high : Nat) : List Char → Option (Nat × List Char)
  | a :: b :: rest => do
      guard (a.isDigit && b.isDigit)
      let n ← digitsValue? 10 [a, b]
      if low ≤ n && n ≤ high then some (n, rest) else none
  | _ => none

def after? (c : Char) : List Char → Option (List Char)
  | d :: rest => if d = c then some rest else none
  | [] => none

def isLeapYear (year : Nat) : Bool :=
  year % 4 == 0 && (year % 100 != 0 || year % 400 == 0)

def daysInMonth (year month : Nat) : Nat :=
  if month = 2 then if isLeapYear year then 29 else 28
  else if [4, 6, 9, 11].contains month then 30
  else 31

def beginsDate : List Char → Bool
  | a :: b :: c :: d :: '-' :: _ => [a, b, c, d].all Char.isDigit
  | _ => false

def beginsTime : List Char → Bool
  | a :: b :: ':' :: _ => a.isDigit && b.isDigit
  | _ => false

def afterDate? (input : List Char) : Option (List Char) := do
  let year ← digitsValue? 10 (input.take 4)
  let (month, rest) ← twoDigits? 1 12 (input.drop 5)
  let rest ← after? '-' rest
  let (_, left) ← twoDigits? 1 (daysInMonth year month) rest
  some left

def afterTime? (input : List Char) : Option (List Char) := do
  let (_, rest) ← twoDigits? 0 23 input
  let rest ← after? ':' rest
  let (_, rest) ← twoDigits? 0 59 rest
  let rest ← after? ':' rest
  let (_, rest) ← twoDigits? 0 60 rest
  match rest with
  | '.' :: c :: left => if c.isDigit then some (left.dropWhile Char.isDigit) else none
  | '.' :: _ => none
  | _ => some rest

def afterOffset? (input : List Char) : Option (List Char) :=
  match input with
  | c :: rest =>
      if c == 'Z' || c == 'z' then some rest
      else if c == '+' || c == '-' then do
        let (_, rest) ← twoDigits? 0 23 rest
        let rest ← after? ':' rest
        let (_, left) ← twoDigits? 0 59 rest
        some left
      else some input
  | [] => some []

def afterMoment? (input : List Char) : Option (List Char) := do
  let rest ← afterDate? input
  match rest with
  | c :: time =>
      if (c == 'T' || c == 't' || c == ' ') && beginsTime time then
        afterOffset? (← afterTime? time)
      else some rest
  | [] => some []

def numberOrMoment? (input : List Char) : Option (Toml × List Char) :=
  if beginsDate input then (afterMoment? input).map fun left => (.moment, left)
  else if beginsTime input then (afterTime? input).map fun left => (.moment, left)
  else number? input

end HolderBond.Toml
