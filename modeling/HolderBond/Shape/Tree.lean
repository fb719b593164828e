import HolderBond.Shape.Basic

/-!
# Reading trees by shape

The same documents as in the reading of texts, given as trees: members count in their
order in the tree, and the first offending one decides.
-/

set_option autoImplicit false

namespace HolderBond

namespace Json

def mismatch {α : Type} (tree : Json) (expected : String) : Except Error α :=
  .error (.wrongKind (found tree) expected)

def asWritten {α : Type} (t : TextForm α) : Json → Except Error α
  | .string s =>
      match t.read s with
      | .ok a => .ok a
      | .error cause => .error (.badText cause)
  | tree => tree.mismatch "a string"

def asChoice {α : Type} (c : Choice α) : Json → Except Error α
  | .string s => c.ofName s
  | .object [(key, value)] => do
      let a ← c.ofName key
      match value with
      | .null => return a
      | tree => tree.mismatch "unit"
  | .object _ => .error (.wrongValue .map "map with a single key")
  | tree => tree.mismatch "string or map"

end Json

mutual

def Shape.ofTree : {α : Type} → Shape α → Json → Except Json.Error α
  | _, .value, tree => .ok (FreeForm.ofTree tree)
  | _, .text, tree =>
      match tree with
      | .string s => .ok s
      | tree => tree.mismatch "a string"
  | _, .flag, tree =>
      match tree with
      | .bool b => .ok b
      | tree => tree.mismatch "a boolean"
  | _, .natural u, tree =>
      match tree with
      | .number n => u.ofNumber n
      | tree => tree.mismatch u.name
  | _, .written t, tree => tree.asWritten t
  | _, .choice c, tree => tree.asChoice c
  | _, .optional inner, tree =>
      match tree with
      | .null => .ok none
      | tree => some <$> inner.ofTree tree
  | _, .list inner, tree =>
      match tree with
      | .array items => items.mapM fun item => inner.ofTree item
      | tree => tree.mismatch "a sequence"
  | _, .members, tree =>
      match tree with
      | .object entries => .ok (Members.ofEntries entries)
      | tree => tree.mismatch "a map"
  | _, .record name positional fields, tree =>
      match tree with
      | .object entries => do
          let slots ← entries.foldlM (fun slots entry =>
            if fields.keys.contains entry.1 then fields.takeMember entry.1 entry.2 slots
            else return slots) fields.noSlots
          fields.complete slots
      | .array items =>
          if positional then do
            let (a, rest) ← fields.takeItems (fields.positionalWords name) 0 items
            if rest.isEmpty then return a
            else .error (.wrongLength items.length "fewer elements in array")
          else Json.mismatch (.array items) s!"struct {name}"
      | tree => tree.mismatch s!"struct {name}"
  | _, .extended name fields, tree =>
      match tree with
      | .object entries => do
          let slots ← entries.foldlM (fun slots entry =>
            if fields.keys.contains entry.1 then fields.takeMember entry.1 entry.2 slots
            else return slots) fields.noSlots
          let a ← fields.complete slots
          let others := entries.filter fun entry => !fields.keys.contains entry.1
          return (a, Members.ofEntries others)
      | tree => tree.mismatch s!"struct {name}"
  | _, .via inner c, tree => c.make <$> inner.ofTree tree

def Fields.takeMember : {α : Type} → (fields : Fields α) → String → Json → fields.Slots →
    Except Json.Error fields.Slots
  | _, .nil, _, _, slots => .ok slots
  | _, .cons name _ shape rest, key, tree, slots =>
      if key = name then
        if slots.1.isSome then .error (.duplicateField name)
        else do
          let a ← shape.ofTree tree
          return (some a, slots.2)
      else do
        let others ← rest.takeMember key tree slots.2
        return (slots.1, others)

/-- The fields from the items in order, and the items left over; `index` counts the items
before. -/
def Fields.takeItems : {α : Type} → Fields α → String → Nat → List Json →
    Except Json.Error (α × List Json)
  | _, .nil, _, _, items => .ok ((), items)
  | _, .cons _ presence shape rest, expected, index, items =>
      match items with
      | item :: items => do
          let a ← shape.ofTree item
          let (b, left) ← rest.takeItems expected (index + 1) items
          return ((a, b), left)
      | [] =>
          match presence.default? with
          | none => .error (.wrongLength index expected)
          | some a => do
              let (b, left) ← rest.takeItems expected (index + 1) []
              return ((a, b), left)

end

end HolderBond
