import HolderBond.Json.Scan

/-!
# Reading and skipping JSON values

A value may hold at most 127 levels of arrays and objects.  A value that nobody asked for
is skipped: its syntax is checked less closely and its depth not at all.
-/

set_option autoImplicit false

namespace HolderBond.Json

open HolderBond.Text (Glyph)

def maxLevels : Nat := 127

namespace Scan

def beginsNumber (g : Glyph) : Bool :=
  g = .char '-' || (digit? g).isSome

/-- A value whose items, if it is an array or an object, are read by `nested`; without it
there may be no such container. -/
def valueOver (nested : Option (Scan Json)) : Scan Json := do
  match ← peek with
  | none => fail .endInValue
  | some (.char 'n') =>
      word ['n', 'u', 'l', 'l']
      return .null
  | some (.char 't') =>
      word ['t', 'r', 'u', 'e']
      return .bool true
  | some (.char 'f') =>
      word ['f', 'a', 'l', 's', 'e']
      return .bool false
  | some (.char '"') =>
      skip
      return .string (← stringBody)
  | some (.char '[') =>
      match nested with
      | none => fail .tooDeep
      | some item =>
          skip
          return .array (← items item)
  | some (.char '\x7b') =>
      match nested with
      | none => fail .tooDeep
      | some item =>
          skip
          let reversed ← members (fun key (seen : List (String × Json)) => do
            colon
            let value ← item
            return (key, value) :: seen) []
          return .object reversed.reverse
  | some g => if beginsNumber g then .number <$> number else fail .expectedValue

def value : Nat → Scan Json
  | 0 => valueOver none
  | levels + 1 => valueOver (some (value levels))

/-! ## Skipping -/

/-- The rest of a string that is only skipped: neither surrogates nor malformed bytes matter.
The recursion is on the input as it stood at the opening quote. -/
def skipStringRest : Input → Scan Unit
  | [] => fail .endInString
  | _ :: clock => do
      match ← get with
      | [] => fail .endInString
      | .malformed _ :: rest =>
          set rest
          skipStringRest clock
      | .char c :: rest =>
          set rest
          if c == '"' then return ()
          else if c == '\\' then
            match rest with
            | .char 'u' :: rest =>
                set rest
                let _ ← fourDigits
                skipStringRest clock
            | _ =>
                let _ ← escape
                skipStringRest clock
          else if c.toNat < 32 then fail .controlCharacter
          else skipStringRest clock

def skipString : Scan Unit := do
  skipStringRest (← get)

def skipDigits : Scan Unit := do
  let input ← get
  if atDigit input then set (digitRun input).2 else fail .badNumber

/-- A number that is only skipped: no range matters. -/
def skipNumber : Scan Unit := do
  let _ ← accept ['-']
  match ← get with
  | .char '0' :: rest => if atDigit rest then fail .badNumber else set rest
  | _ => skipDigits
  if (← accept ['.']).isSome then skipDigits
  if (← accept ['e', 'E']).isSome then
    let _ ← accept ['+', '-']
    skipDigits

/-- Whether the container that ends in `close` goes on after one of its values; the comma or
the closing glyph is consumed. -/
def skipOn (close : Char) (ended expected : Error) : Scan Bool := do
  match ← peek with
  | none => fail ended
  | some g =>
      if g = .char ',' then
        skip
        return true
      else if g = .char close then
        skip
        return false
      else fail expected

mutual

def skipValue : Nat → Scan Unit
  | 0 => fail .endInValue
  | fuel + 1 => do
      match ← peek with
      | none => fail .endInValue
      | some (.char 'n') => word ['n', 'u', 'l', 'l']
      | some (.char 't') => word ['t', 'r', 'u', 'e']
      | some (.char 'f') => word ['f', 'a', 'l', 's', 'e']
      | some (.char '"') =>
          skip
          skipString
      | some (.char '[') =>
          skip
          match ← peek with
          | none => fail .endInList
          | some (.char ']') => skip
          | some _ => skipItems fuel
      | some (.char '\x7b') =>
          skip
          match ← peek with
          | none => fail .endInObject
          | some (.char '\x7d') => skip
          | some _ => skipMembers fuel
      | some g => if beginsNumber g then skipNumber else fail .expectedValue

def skipItems : Nat → Scan Unit
  | 0 => fail .endInList
  | fuel + 1 => do
      skipValue fuel
      if ← skipOn ']' .endInList .expectedListEnd then skipItems fuel

def skipMembers : Nat → Scan Unit
  | 0 => fail .endInObject
  | fuel + 1 => do
      match ← peek with
      | none => fail .endInObject
      | some (.char '"') =>
          skip
          skipString
          colon
          skipValue fuel
          if ← skipOn '\x7d' .endInObject .expectedObjectEnd then skipMembers fuel
      | some _ => fail .keyNotString

end

/-- Skips one value, however deep. -/
def skipAny : Scan Unit := do
  skipValue (2 * (← get).length + 2)

end Scan

def read (s : String) : Except Error Json :=
  (Scan.value maxLevels).run (Text.glyphs s)

end HolderBond.Json

namespace HolderBond.FreeForm

def read (s : String) : Except Json.Error FreeForm :=
  ofTree <$> Json.read s

def render (value : FreeForm) : String :=
  value.tree.render

end HolderBond.FreeForm
