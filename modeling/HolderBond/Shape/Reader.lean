import HolderBond.Shape.Basic

/-!
# Reading texts by shape

Faults are found in reading order: the first offending value of the text decides.  Within
an object, a repeated field is reported at its second key, an absent one at the end.
-/

set_option autoImplicit false

namespace HolderBond

open HolderBond.Json (Scan)

namespace Json.Scan

/-- The refusal of whatever comes next where something else was expected.  What comes next
is read first, so that its own faults count. -/
def mismatch {α : Type} (expected : String) : Scan α := do
  match ← peek with
  | none => fail .endInValue
  | some (.char 'n') =>
      word ['n', 'u', 'l', 'l']
      fail (.wrongKind .null expected)
  | some (.char 't') =>
      word ['t', 'r', 'u', 'e']
      fail (.wrongKind (.bool true) expected)
  | some (.char 'f') =>
      word ['f', 'a', 'l', 's', 'e']
      fail (.wrongKind (.bool false) expected)
  | some (.char '"') =>
      skip
      let s ← stringBody
      fail (.wrongKind (.string s) expected)
  | some (.char '[') => fail (.wrongKind .sequence expected)
  | some (.char '\x7b') => fail (.wrongKind .map expected)
  | some g =>
      if beginsNumber g then
        let n ← number
        fail (.wrongKind (.number n) expected)
      else fail .expectedValue

def text (expected : String) : Scan String := do
  match ← peek with
  | some (.char '"') =>
      skip
      stringBody
  | _ => mismatch expected

def flag : Scan Bool := do
  match ← peek with
  | some (.char 't') =>
      word ['t', 'r', 'u', 'e']
      return true
  | some (.char 'f') =>
      word ['f', 'a', 'l', 's', 'e']
      return false
  | _ => mismatch "a boolean"

def natural {α : Type} (u : Unsigned α) : Scan α := do
  match ← peek with
  | none => fail .endInValue
  | some g =>
      if beginsNumber g then
        let n ← number
        u.ofNumber n
      else mismatch u.name

def written {α : Type} (t : TextForm α) : Scan α := do
  let s ← text "a string"
  match t.read s with
  | .ok a => return a
  | .error cause => fail (.badText cause)

def unit : Scan Unit := do
  match ← peek with
  | some (.char 'n') => word ['n', 'u', 'l', 'l']
  | _ => mismatch "unit"

/-- One of a few names: a string, or an object whose only key is the name and whose value
is null. -/
def choice {α : Type} (c : Choice α) (levels : Nat) : Scan α := do
  match ← peek with
  | none => fail .endInValue
  | some (.char '"') =>
      skip
      c.ofName (← stringBody)
  | some (.char '\x7b') =>
      if levels = 0 then fail .tooDeep
      else
        skip
        let a ← c.ofName (← text "variant identifier")
        colon
        unit
        match ← peek with
        | none => fail .endInObject
        | some (.char '\x7d') =>
            skip
            return a
        | some _ => fail .expectedValue
  | some _ => fail .expectedValue

def sequence {α : Type} (levels : Nat) (expected : String) (inside : Nat → Scan α) : Scan α := do
  match ← peek with
  | some (.char '[') =>
      match levels with
      | 0 => fail .tooDeep
      | deeper + 1 =>
          skip
          inside deeper
  | _ => mismatch expected

def mapping {α : Type} (levels : Nat) (expected : String) (inside : Nat → Scan α) : Scan α := do
  match ← peek with
  | some (.char '\x7b') =>
      match levels with
      | 0 => fail .tooDeep
      | deeper + 1 =>
          skip
          inside deeper
  | _ => mismatch expected

def keepMember (levels : Nat) (key : String) (seen : List (String × Json)) :
    Scan (List (String × Json)) := do
  colon
  let value ← value levels
  return (key, value) :: seen

def dropMember {σ : Type} (state : σ) : Scan σ := do
  colon
  skipAny
  return state

end Json.Scan

mutual

/-- A value of the given shape with at most `levels` levels of arrays and objects. -/
def Shape.scan : {α : Type} → Shape α → Nat → Scan α
  | _, .value, levels => FreeForm.ofTree <$> Scan.value levels
  | _, .text, _ => Scan.text "a string"
  | _, .flag, _ => Scan.flag
  | _, .natural u, _ => Scan.natural u
  | _, .written t, _ => Scan.written t
  | _, .choice c, levels => Scan.choice c levels
  | _, .optional inner, levels => do
      match ← Scan.peek with
      | some (.char 'n') =>
          Scan.word ['n', 'u', 'l', 'l']
          return none
      | _ => some <$> inner.scan levels
  | _, .list inner, levels =>
      Scan.sequence levels "a sequence" fun deeper => Scan.items (inner.scan deeper)
  | _, .members, levels =>
      Scan.mapping levels "a map" fun deeper => do
        let reversed ← Scan.members (Scan.keepMember deeper) []
        return Members.ofEntries reversed.reverse
  | _, .record name positional fields, levels => do
      let expected := s!"struct {name}"
      match ← Scan.peek with
      | some (.char '[') =>
          if positional then
            Scan.sequence levels expected fun deeper => do
              let a ← fields.scanItems deeper (fields.positionalWords name) 0
              Scan.endItems
              return a
          else Scan.mismatch expected
      | _ =>
          Scan.mapping levels expected fun deeper => do
            let slots ← Scan.members (fun key slots =>
              if fields.keys.contains key then fields.scanMember deeper key slots
              else Scan.dropMember slots) fields.noSlots
            fields.complete slots
  | _, .extended name fields, levels =>
      Scan.mapping levels s!"struct {name}" fun deeper => do
        let (slots, reversed) ← Scan.members (fun key (slots, seen) =>
          if fields.keys.contains key then do
            let slots ← fields.scanMember deeper key slots
            return (slots, seen)
          else do
            let seen ← Scan.keepMember deeper key seen
            return (slots, seen)) (fields.noSlots, [])
        let a ← fields.complete slots
        return (a, Members.ofEntries reversed.reverse)
  | _, .via inner c, levels => c.make <$> inner.scan levels

def Fields.scanMember :
    {α : Type} → (fields : Fields α) → Nat → String → fields.Slots → Scan fields.Slots
  | _, .nil, _, _, slots => Scan.dropMember slots
  | _, .cons name _ shape rest, levels, key, slots =>
      if key = name then do
        if slots.1.isSome then Scan.fail (.duplicateField name)
        Scan.colon
        let a ← shape.scan levels
        return (some a, slots.2)
      else do
        let others ← rest.scanMember levels key slots.2
        return (slots.1, others)

def Fields.scanItems : {α : Type} → Fields α → Nat → String → Nat → Scan α
  | _, .nil, _, _, _ => return ()
  | _, .cons _ presence shape rest, levels, expected, index => do
      if ← Scan.moreItems (index == 0) then
        let a ← shape.scan levels
        let b ← rest.scanItems levels expected (index + 1)
        return (a, b)
      else
        match presence.default? with
        | none => Scan.fail (.wrongLength index expected)
        | some a =>
            let b ← rest.scanItems levels expected (index + 1)
            return (a, b)

end

def Shape.readGlyphs {α : Type} (shape : Shape α) (input : Json.Input) : Except Json.Error α :=
  (shape.scan Json.maxLevels).run input

def Shape.read {α : Type} (shape : Shape α) (s : String) : Except Json.Error α :=
  shape.readGlyphs (Text.glyphs s)

def Shape.readBytes {α : Type} (shape : Shape α) (bytes : List UInt8) : Except Json.Error α :=
  shape.readGlyphs (Text.decode bytes)

end HolderBond
