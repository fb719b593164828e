/-!
# Values of settings files

A settings file is a table of values.  Tables remember how they came to be, because that
decides what later lines may still add to them.
-/

set_option autoImplicit false

namespace HolderBond

/-- How a table came to be. -/
inductive TableOrigin where
  /-- Written between braces, and complete with them. -/
  | braces
  /-- Opened by a header of its own. -/
  | header
  /-- Named on the way in a header. -/
  | passed
  /-- Named on the way in a dotted key. -/
  | dotted
  deriving DecidableEq

inductive Toml where
  | text (s : String)
  | integer (n : Int)
  /-- A number with a fraction or an exponent, or none; no setting has such a value. -/
  | float
  | flag (b : Bool)
  /-- A date, a time or both; no setting has such a value. -/
  | moment
  | array (items : List Toml)
  | table (origin : TableOrigin) (entries : List (String × Toml))
  | tables (elements : List (List (String × Toml)))

namespace Toml

abbrev Entries := List (String × Toml)

def Entries.get? (entries : Entries) (key : String) : Option Toml :=
  (entries.find? fun entry => entry.1 == key).map Prod.snd

def Entries.alter (key : String) (change : Option Toml → Option Toml) :
    Entries → Option Entries
  | [] => (change none).map fun value => [(key, value)]
  | (name, value) :: rest =>
      if name = key then (change (some value)).map fun value => (name, value) :: rest
      else (Entries.alter key change rest).map fun rest => (name, value) :: rest

def alterLast (change : Entries → Option Entries) :
    List Entries → Option (List Entries)
  | [] => none
  | [last] => (change last).map fun last => [last]
  | element :: rest => (alterLast change rest).map fun rest => element :: rest

/-- The value of a dotted key put into a table that is being written.  The tables on the way
may have been named before but not opened, and the last of them only by dotted keys. -/
def assign (value : Toml) : List String → String → Entries → Option Entries
  | [], key, entries =>
      entries.alter key fun
        | none => some value
        | some _ => none
  | step :: path, key, entries =>
      entries.alter step fun
        | none => (assign value path key []).map (.table .dotted)
        | some (.table .dotted inner) => (assign value path key inner).map (.table .dotted)
        | some (.table .passed inner) =>
            if path.isEmpty then none else (assign value path key inner).map (.table .passed)
        | some (.tables elements) =>
            if path.isEmpty then none
            else (alterLast (assign value path key) elements).map .tables
        | some _ => none

/-- The table that a header names, changed; the tables on the way are made as they are
missing. -/
def visit (change : Option Toml → Option Toml) : List String → String → Entries → Option Entries
  | [], key, entries => entries.alter key change
  | step :: path, key, entries =>
      entries.alter step fun
        | none => (visit change path key []).map (.table .passed)
        | some (.table .braces _) => none
        | some (.table origin inner) => (visit change path key inner).map (.table origin)
        | some (.tables elements) =>
            (alterLast (visit change path key) elements).map .tables
        | some _ => none

end Toml

end HolderBond
