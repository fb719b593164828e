import HolderBond.Shape.Basic
import HolderBond.Toml.Basic
import HolderBond.Toml.Printer

/-!
# Settings

A list of settings says which keys a section of a settings file may have, what their values
are, and what holds where a key is absent.  The same list gives the section's form in JSON
documents.
-/

set_option autoImplicit false

namespace HolderBond

inductive Setting : Type → Type 1 where
  | text : Setting String
  | flag : Setting Bool
  | natural {α : Type} (u : Unsigned α) : Setting α
  | choice {α : Type} (c : Choice α) : Setting α

/-- Settings in order, each with its key and its default; values are nested pairs. -/
inductive Settings : Type → Type 1 where
  | nil : Settings Unit
  | cons {α β : Type} (key : String) (default : α) (setting : Setting α) (rest : Settings β) :
      Settings (α × β)

namespace Setting

def shape : {α : Type} → Setting α → Shape α
  | _, .text => .text
  | _, .flag => .flag
  | _, .natural u => .natural u
  | _, .choice c => .choice c

def isVoid : Toml → Bool
  | .table _ entries => entries.isEmpty
  | .array items => items.isEmpty
  | _ => false

/-- The setting's value that is written in a file.  A choice may be the only key of a table,
with a void value. -/
def ofToml? : {α : Type} → Setting α → Toml → Option α
  | _, .text, .text s => some s
  | _, .flag, .flag b => some b
  | _, .natural u, .integer n => if 0 ≤ n then u.ofNat? n.toNat else none
  | _, .choice c, .text s => c.ofName? s
  | _, .choice c, .table _ [(name, value)] => if isVoid value then c.ofName? name else none
  | _, _, _ => none

def render : {α : Type} → Setting α → α → String
  | _, .text, s => Toml.quoted s
  | _, .flag, b => if b then "true" else "false"
  | _, .natural u, n => toString (u.toNat n)
  | _, .choice c, a => Toml.quoted (c.name a)

end Setting

namespace Settings

def defaults : {α : Type} → Settings α → α
  | _, .nil => ()
  | _, .cons _ default _ rest => (default, rest.defaults)

def fields : {α : Type} → Settings α → Fields α
  | _, .nil => .nil
  | _, .cons key default setting rest => .fieldOr key default setting.shape rest.fields

/-- The values in a table: what it holds where it holds something, defaults elsewhere. -/
def ofEntries? : {α : Type} → Settings α → Toml.Entries → Option α
  | _, .nil, _ => some ()
  | _, .cons key default setting rest, entries => do
      let a ← match entries.get? key with
        | none => some default
        | some value => setting.ofToml? value
      let b ← rest.ofEntries? entries
      return (a, b)

def ofItems? : {α : Type} → Settings α → List Toml → Option α
  | _, .nil, _ => some ()
  | _, .cons _ default _ rest, [] => some (default, rest.defaults)
  | _, .cons _ _ setting rest, item :: items => do
      let a ← setting.ofToml? item
      let b ← rest.ofItems? items
      return (a, b)

/-- The values of a section: of a table, or, if `positional`, of an array.  A moment counts as a table
that has none of the keys. -/
def ofSection? {α : Type} (settings : Settings α) (positional : Bool) : Option Toml → Option α
  | none => some settings.defaults
  | some (.table _ entries) => settings.ofEntries? entries
  | some (.array items) => if positional then settings.ofItems? items else none
  | some .moment => some settings.defaults
  | some _ => none

def lines : {α : Type} → Settings α → α → List String
  | _, .nil, _ => []
  | _, .cons key _ setting rest, a => (key ++ " = " ++ setting.render a.1) :: rest.lines a.2

def render {α : Type} (settings : Settings α) (name : String) (a : α) : String :=
  String.join ((s!"[{name}]" :: settings.lines a).map fun line => line ++ "\n")

end Settings

end HolderBond
