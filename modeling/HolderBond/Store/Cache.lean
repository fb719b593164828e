import HolderBond.Bond.Transport
import HolderBond.Store.Backend

/-!
# The cache of bonds

Bonds are kept as one list, the latest first, under one key of a backend.  The cache is a
convenience: where the backend fails or holds something else, it counts as empty, and no
operation reports more than whether it was done.
-/

set_option autoImplicit false

namespace HolderBond

structure CacheSettings where
  key : String
  maxEntries : UInt64
  deriving DecidableEq

namespace CacheSettings

def standard : CacheSettings :=
  ⟨"zkpf-bound-proofs", 50⟩

def settings : Settings (String × UInt64 × Unit) :=
  .cons "key" standard.key .text <|
  .cons "max_entries" standard.maxEntries (.natural .count) .nil

def correspondence : Correspondence (String × UInt64 × Unit) CacheSettings where
  make := fun (key, maxEntries, ()) => ⟨key, maxEntries⟩
  view := fun s => (s.key, s.maxEntries, ())
  make_view := fun _ => rfl
  view_make := fun _ => rfl

def shape : Shape CacheSettings :=
  .via (.record "StorageConfig" true settings.fields) correspondence

end CacheSettings

def Bond.listShape : Shape (List Bond) :=
  .list Bond.shape

/-- A list of bonds with one in front, no other of its name, and no more than allowed. -/
def Bond.putFirst (maxEntries : Nat) (bond : Bond) (bonds : List Bond) : List Bond :=
  (bond :: bonds.filter fun other => other.id != bond.id).take maxEntries

structure Cache (m : Type → Type) where
  backend : Backend m
  settings : CacheSettings

namespace Cache

variable {m : Type → Type} [Monad m]

/-- The bonds that are kept, or why they cannot be told. -/
def tryList (cache : Cache m) : m (Except StoreError (List Bond)) := do
  match ← cache.backend.get cache.settings.key with
  | .error fault => return .error fault
  | .ok none => return .ok []
  | .ok (some text) => return (Bond.listShape.read text).mapError .serialization

/-- The bonds that are kept; none where they cannot be told. -/
def list (cache : Cache m) : m (List Bond) := do
  match ← cache.tryList with
  | .ok bonds => return bonds
  | .error _ => return []

def write (cache : Cache m) (bonds : List Bond) : m Bool := do
  match ← cache.backend.set cache.settings.key (Bond.listShape.render bonds) with
  | .ok () => return true
  | .error _ => return false

/-- Keeps a bond in front of the others, of which the oldest give way; whether it was done. -/
def save (cache : Cache m) (bond : Bond) : m Bool := do
  if cache.settings.maxEntries = 0 then return false
  else
    let bonds ← cache.list
    cache.write (Bond.putFirst cache.settings.maxEntries.toNat bond bonds)

def get (cache : Cache m) (id : String) : m (Option Bond) := do
  return (← cache.list).find? fun bond => bond.id == id

/-- Drops the bonds of a name; whether there were any and it was done. -/
def delete (cache : Cache m) (id : String) : m Bool := do
  let bonds ← cache.list
  let others := bonds.filter fun bond => bond.id != id
  if others.length = bonds.length then return false else cache.write others

def clear (cache : Cache m) : m Bool := do
  match ← cache.backend.remove cache.settings.key with
  | .ok () => return true
  | .error _ => return false

def size (cache : Cache m) : m Nat := do
  return (← cache.list).length

def isEmpty (cache : Cache m) : m Bool := do
  return (← cache.size) == 0

end Cache

end HolderBond
