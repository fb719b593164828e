import HolderBond.Json.Reader

/-!
# Shapes of documents

A `Shape α` says what the documents of a format look like whose values have type `α`.  One
shape gives the writer, the reader of texts, the reader of trees and the equality of values,
so that all four agree about fields, defaults and order.
-/

set_option autoImplicit false

namespace HolderBond

structure Unsigned (α : Type) where
  name : String
  toNat : α → Nat
  ofNat? : Nat → Option α
  toNat_lt : ∀ a, toNat a < UInt64.size
  ofNat?_toNat : ∀ a, ofNat? (toNat a) = some a
  toNat_of_ofNat? : ∀ n a, ofNat? n = some a → toNat a = n

namespace Unsigned

def byte : Unsigned UInt8 where
  name := "u8"
  toNat := UInt8.toNat
  ofNat? n := if n < UInt8.size then some (UInt8.ofNat n) else none
  toNat_lt a := Nat.lt_trans a.toNat_lt (by decide)
  ofNat?_toNat a := by simp [a.toNat_lt]
  toNat_of_ofNat? n a h := by
    split at h
    · next small =>
        cases h
        simp [Nat.mod_eq_of_lt (show n < 256 from small)]
    · cases h

def word : Unsigned UInt32 where
  name := "u32"
  toNat := UInt32.toNat
  ofNat? n := if n < UInt32.size then some (UInt32.ofNat n) else none
  toNat_lt a := Nat.lt_trans a.toNat_lt (by decide)
  ofNat?_toNat a := by simp [a.toNat_lt]
  toNat_of_ofNat? n a h := by
    split at h
    · next small =>
        cases h
        simp [Nat.mod_eq_of_lt (show n < 4294967296 from small)]
    · cases h

def long : Unsigned UInt64 where
  name := "u64"
  toNat := UInt64.toNat
  ofNat? n := if n < UInt64.size then some (UInt64.ofNat n) else none
  toNat_lt a := a.toNat_lt
  ofNat?_toNat a := by simp [a.toNat_lt]
  toNat_of_ofNat? n a h := by
    split at h
    · next small =>
        cases h
        simp [Nat.mod_eq_of_lt (show n < 18446744073709551616 from small)]
    · cases h

def count : Unsigned UInt64 :=
  { long with name := "usize" }

def ofNumber {α : Type} (u : Unsigned α) (n : JsonNumber) : Except Json.Error α :=
  match n with
  | .natural m =>
      match u.ofNat? m.toNat with
      | some a => .ok a
      | none => .error (.wrongValue (.number n) u.name)
  | .negative _ => .error (.wrongValue (.number n) u.name)
  | .float _ => .error (.wrongKind (.number n) u.name)

end Unsigned

structure TextForm (α : Type) where
  write : α → String
  read : String → Except String α
  read_write : ∀ a, read (write a) = .ok a

structure Choice (α : Type) where
  names : List String
  name : α → String
  ofName? : String → Option α
  ofName?_name : ∀ a, ofName? (name a) = some a

namespace Choice

def ofName {α : Type} (c : Choice α) (s : String) : Except Json.Error α :=
  match c.ofName? s with
  | some a => .ok a
  | none => .error (.unknownVariant s c.names)

end Choice

/-- What happens when a field is absent, and whether a field may be left out in writing. -/
inductive Presence (α : Type) where
  | required
  /-- The field may be absent and is always written. -/
  | filled (default : α)
  /-- The field may be absent and is left out when it has its default. -/
  | elided (default : α) (isDefault : α → Bool) (law : ∀ a, isDefault a = true ↔ a = default)

namespace Presence

def default? {α : Type} : Presence α → Option α
  | .required => none
  | .filled d => some d
  | .elided d _ _ => some d

def leavesOut {α : Type} : Presence α → α → Bool
  | .elided _ isDefault _, a => isDefault a
  | _, _ => false

def optional {α : Type} : Presence (Option α) :=
  .elided none Option.isNone (by simp)

def nonemptyText : Presence String :=
  .elided "" String.isEmpty (by simp)

def nonemptyMembers : Presence Members :=
  .elided .empty Members.isEmpty Members.isEmpty_iff

end Presence

/-- A one-to-one correspondence between two types. -/
structure Correspondence (α β : Type) where
  make : α → β
  view : β → α
  make_view : ∀ b, make (view b) = b
  view_make : ∀ a, view (make a) = a

mutual

/-- What documents look like whose values have the given type. -/
inductive Shape : Type → Type 1 where
  | value : Shape FreeForm
  | text : Shape String
  | flag : Shape Bool
  | natural {α : Type} (u : Unsigned α) : Shape α
  | written {α : Type} (t : TextForm α) : Shape α
  | choice {α : Type} (c : Choice α) : Shape α
  | optional {α : Type} (inner : Shape α) : Shape (Option α)
  | list {α : Type} (inner : Shape α) : Shape (List α)
  /-- An object with any keys and any values. -/
  | members : Shape Members
  /-- An object with known fields, others being ignored; if `positional`, an array of the
  fields in order will do as well. -/
  | record {α : Type} (name : String) (positional : Bool) (fields : Fields α) : Shape α
  /-- An object with known fields, others being kept. -/
  | extended {α : Type} (name : String) (fields : Fields α) : Shape (α × Members)
  /-- Another shape's documents, their values put into a type of their own. -/
  | via {α β : Type} (inner : Shape α) (c : Correspondence α β) : Shape β

/-- The known fields of an object in their order; values are nested pairs. -/
inductive Fields : Type → Type 1 where
  | nil : Fields Unit
  | cons {α β : Type} (key : String) (presence : Presence α) (shape : Shape α)
      (rest : Fields β) : Fields (α × β)

end

namespace Shape

def word : Shape UInt32 := .natural .word

def long : Shape UInt64 := .natural .long

def count : Shape UInt64 := .natural .count

def bytes : Shape (List UInt8) := .list (.natural .byte)

end Shape

namespace Fields

def field {α β : Type} (key : String) (shape : Shape α) (rest : Fields β) : Fields (α × β) :=
  .cons key .required shape rest

def fieldOr {α β : Type} (key : String) (default : α) (shape : Shape α) (rest : Fields β) :
    Fields (α × β) :=
  .cons key (.filled default) shape rest

def optional {α β : Type} (key : String) (shape : Shape α) (rest : Fields β) :
    Fields (Option α × β) :=
  .cons key .optional (.optional shape) rest

def keys : {α : Type} → Fields α → List String
  | _, .nil => []
  | _, .cons key _ _ rest => key :: rest.keys

def positionalWords {α : Type} (name : String) (fields : Fields α) : String :=
  let n := fields.keys.length
  if n = 1 then s!"struct {name} with 1 element" else s!"struct {name} with {n} elements"

/-- The values met so far while the members of an object are read. -/
def Slots : {α : Type} → Fields α → Type
  | _, .nil => Unit
  | _, @Fields.cons α _ _ _ _ rest => Option α × rest.Slots

def noSlots : {α : Type} → (fields : Fields α) → fields.Slots
  | _, .nil => ()
  | _, .cons _ _ _ rest => (none, rest.noSlots)

/-- The record of the values met, absent fields taking their defaults; the first field in
order that must be there and is not is reported. -/
def complete : {α : Type} → (fields : Fields α) → fields.Slots → Except Json.Error α
  | _, .nil, _ => .ok ()
  | _, .cons key presence _ rest, slots =>
      match slots.1 <|> presence.default? with
      | none => .error (.missingField key)
      | some a => do
          let b ← rest.complete slots.2
          return (a, b)

end Fields

mutual

def Shape.write : {α : Type} → Shape α → α → Json
  | _, .value, v => v.tree
  | _, .text, s => .string s
  | _, .flag, b => .bool b
  | _, .natural u, n => .number (.natural (UInt64.ofNat (u.toNat n)))
  | _, .written t, a => .string (t.write a)
  | _, .choice c, a => .string (c.name a)
  | _, .optional inner, a =>
      match a with
      | none => .null
      | some a => inner.write a
  | _, .list inner, xs => .array (xs.map fun x => inner.write x)
  | _, .members, m => .object m.entries
  | _, .record _ _ fields, a => .object (fields.write a)
  | _, .extended _ fields, a => .object (fields.write a.1 ++ a.2.entries)
  | _, .via inner c, b => inner.write (c.view b)

def Fields.write : {α : Type} → Fields α → α → List (String × Json)
  | _, .nil, _ => []
  | _, .cons key presence shape rest, a =>
      if presence.leavesOut a.1 then rest.write a.2
      else (key, shape.write a.1) :: rest.write a.2

end

mutual

/-- Equality of values that compares free numbers by value. -/
def Shape.same : {α : Type} → Shape α → α → α → Bool
  | _, .value, a, b => a.same b
  | _, .text, a, b => a == b
  | _, .flag, a, b => a == b
  | _, .natural u, a, b => u.toNat a == u.toNat b
  | _, .written t, a, b => t.write a == t.write b
  | _, .choice c, a, b => c.name a == c.name b
  | _, .optional inner, a, b =>
      match a, b with
      | none, none => true
      | some a, some b => inner.same a b
      | _, _ => false
  | _, .list inner, xs, ys =>
      xs.length == ys.length && (xs.zip ys).all fun p => inner.same p.1 p.2
  | _, .members, a, b => a.same b
  | _, .record _ _ fields, a, b => fields.same a b
  | _, .extended _ fields, a, b => fields.same a.1 b.1 && a.2.same b.2
  | _, .via inner c, a, b => inner.same (c.view a) (c.view b)

def Fields.same : {α : Type} → Fields α → α → α → Bool
  | _, .nil, _, _ => true
  | _, .cons _ _ shape rest, a, b => shape.same a.1 b.1 && rest.same a.2 b.2

end

def Shape.render {α : Type} (shape : Shape α) (a : α) : String :=
  (shape.write a).render

def Shape.pretty {α : Type} (shape : Shape α) (a : α) : String :=
  (shape.write a).pretty

end HolderBond
