import HolderBond.Store.Error

/-!
# Backends

A backend keeps texts under keys, by calls that may fail.  Here are the one that keeps them
in memory, and one whose calls can be made to fail.
-/

set_option autoImplicit false

namespace HolderBond

/-- The calls of a map from keys to texts. -/
structure Backend (m : Type → Type) where
  get : String → m (Except StoreError (Option String))
  set : String → String → m (Except StoreError Unit)
  remove : String → m (Except StoreError Unit)

structure Memory where
  entries : List (String × String)
  deriving DecidableEq

namespace Memory

def empty : Memory := ⟨[]⟩

def get? (memory : Memory) (key : String) : Option String :=
  (memory.entries.find? fun entry => entry.1 == key).map Prod.snd

def erase (memory : Memory) (key : String) : Memory :=
  ⟨memory.entries.filter fun entry => entry.1 != key⟩

def insert (memory : Memory) (key text : String) : Memory :=
  ⟨(key, text) :: (memory.erase key).entries⟩

def backend : Backend (StateM Memory) where
  get key := return .ok ((← get).get? key)
  set key text := do
    modify (·.insert key text)
    return .ok ()
  remove key := do
    modify (·.erase key)
    return .ok ()

@[simp] theorem get?_erase_same (memory : Memory) (key : String) :
    (memory.erase key).get? key = none := by
  simp [get?, erase]

theorem get?_erase_other (memory : Memory) {key other : String} (distinct : other ≠ key) :
    (memory.erase key).get? other = memory.get? other := by
  have agree : (memory.entries.filter fun entry => entry.1 != key).find?
      (fun entry => entry.1 == other) = memory.entries.find? fun entry => entry.1 == other := by
    rw [List.find?_filter]
    congr 1
    funext entry
    by_cases same : entry.1 = other <;> simp [same, distinct]
  simp [get?, erase, agree]

@[simp] theorem get?_insert_same (memory : Memory) (key text : String) :
    (memory.insert key text).get? key = some text := by
  simp [get?, insert]

theorem get?_insert_other (memory : Memory) {key other : String} (text : String)
    (distinct : other ≠ key) : (memory.insert key text).get? other = memory.get? other := by
  rw [← get?_erase_other memory distinct]
  simp [get?, insert, Ne.symm distinct]

end Memory

structure Refusals where
  get : Bool
  set : Bool
  remove : Bool
  deriving DecidableEq

structure FaultyMemory where
  memory : Memory
  refusals : Refusals

namespace FaultyMemory

def empty : FaultyMemory :=
  ⟨.empty, ⟨false, false, false⟩⟩

/-- A call that changes the memory unless it is refused. -/
def change (isRefused : Refusals → Bool) (words : String) (step : Memory → Memory) :
    StateM FaultyMemory (Except StoreError Unit) := do
  let state ← get
  if isRefused state.refusals then return .error (.backend words)
  else
    set { state with memory := step state.memory }
    return .ok ()

/-- The backend whose texts and refusals are the state; a refused call changes nothing. -/
def backend : Backend (StateM FaultyMemory) where
  get key := do
    let state ← get
    if state.refusals.get then return .error (.backend "get refused")
    else return .ok (state.memory.get? key)
  set key text := change Refusals.set "set refused" (·.insert key text)
  remove key := change Refusals.remove "remove refused" (·.erase key)

end FaultyMemory

end HolderBond
