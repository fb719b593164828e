import HolderBond.Decimal.Binary64

/-!
# JSON values

A `Json` is a tree as it is written, members in written order and keys possibly repeated.
A `FreeForm` is a value as it is understood: in every object the keys increase strictly,
in the byte order of their UTF-8, and of repeated keys the last one written has won.
-/

set_option autoImplicit false

namespace HolderBond

/-- Integers of 64 bits, unsigned or negative, and finite floating-point numbers.
`negative k` is the integer `-(k + 1)`. -/
inductive JsonNumber where
  | natural (n : UInt64)
  | negative (k : Fin 0x8000000000000000)
  | float (x : Binary64)
  deriving DecidableEq

/-- Numeric equality within a kind; an integer is never equal to a float. -/
def JsonNumber.same : JsonNumber → JsonNumber → Bool
  | .natural m, .natural n => m == n
  | .negative j, .negative k => j == k
  | .float x, .float y => x.same y
  | _, _ => false

inductive Json where
  | null
  | bool (b : Bool)
  | number (n : JsonNumber)
  | string (s : String)
  | array (items : List Json)
  | object (members : List (String × Json))

namespace Json

mutual

def decide? : Json → Json → Bool
  | .null, .null => true
  | .bool a, .bool b => a == b
  | .number m, .number n => decide (m = n)
  | .string s, .string t => s == t
  | .array xs, .array ys => decideItems xs ys
  | .object ms, .object ns => decideMembers ms ns
  | _, _ => false

def decideItems : List Json → List Json → Bool
  | [], [] => true
  | x :: xs, y :: ys => decide? x y && decideItems xs ys
  | _, _ => false

def decideMembers : List (String × Json) → List (String × Json) → Bool
  | [], [] => true
  | (k, v) :: ms, (l, w) :: ns => k == l && decide? v w && decideMembers ms ns
  | _, _ => false

end

mutual

theorem decide?_iff : (a b : Json) → (decide? a b = true ↔ a = b)
  | .null, b => by cases b <;> simp [decide?]
  | .bool x, b => by cases b <;> simp [decide?]
  | .number n, b => by cases b <;> simp [decide?]
  | .string s, b => by cases b <;> simp [decide?]
  | .array xs, b => by
      cases b with
      | array ys => simpa [decide?] using decideItems_iff xs ys
      | _ => simp [decide?]
  | .object ms, b => by
      cases b with
      | object ns => simpa [decide?] using decideMembers_iff ms ns
      | _ => simp [decide?]

theorem decideItems_iff : (xs ys : List Json) → (decideItems xs ys = true ↔ xs = ys)
  | [], ys => by cases ys <;> simp [decideItems]
  | x :: xs, ys => by
      cases ys with
      | nil => simp [decideItems]
      | cons y ys => simp [decideItems, decide?_iff x y, decideItems_iff xs ys]

theorem decideMembers_iff :
    (ms ns : List (String × Json)) → (decideMembers ms ns = true ↔ ms = ns)
  | [], ns => by cases ns <;> simp [decideMembers]
  | (k, v) :: ms, ns => by
      cases ns with
      | nil => simp [decideMembers]
      | cons n ns =>
          obtain ⟨l, w⟩ := n
          simp [decideMembers, decide?_iff v w, decideMembers_iff ms ns]

end

instance : DecidableEq Json := fun a b =>
  decidable_of_iff (decide? a b = true) (decide?_iff a b)

instance : Inhabited Json := ⟨.null⟩

/-! ## Parts -/

def member? (key : String) : Json → Option Json
  | .object entries => (entries.find? fun entry => entry.1 == key).map Prod.snd
  | _ => none

def bool? : Json → Option Bool
  | .bool b => some b
  | _ => none

def string? : Json → Option String
  | .string s => some s
  | _ => none

/-! ## Equality of values -/

mutual

/-- Equality that compares numbers by value. -/
def same : Json → Json → Bool
  | .null, .null => true
  | .bool a, .bool b => a == b
  | .number m, .number n => m.same n
  | .string s, .string t => s == t
  | .array xs, .array ys => sameItems xs ys
  | .object ms, .object ns => sameMembers ms ns
  | _, _ => false

def sameItems : List Json → List Json → Bool
  | [], [] => true
  | x :: xs, y :: ys => same x y && sameItems xs ys
  | _, _ => false

def sameMembers : List (String × Json) → List (String × Json) → Bool
  | [], [] => true
  | (k, v) :: ms, (l, w) :: ns => k == l && same v w && sameMembers ms ns
  | _, _ => false

end

/-! ## Order of keys -/

def keyBefore (key : String) : List (String × Json) → Bool
  | [] => true
  | (first, _) :: _ => decide (key < first)

mutual

def isSorted : Json → Bool
  | .array xs => itemsSorted xs
  | .object ms => membersSorted ms
  | _ => true

def itemsSorted : List Json → Bool
  | [] => true
  | x :: xs => x.isSorted && itemsSorted xs

def membersSorted : List (String × Json) → Bool
  | [] => true
  | (k, v) :: ms => v.isSorted && keyBefore k ms && membersSorted ms

end

/-- A member put among sorted members; a key already there keeps its value. -/
def place (key : String) (value : Json) : List (String × Json) → List (String × Json)
  | [] => [(key, value)]
  | (k, v) :: ms =>
      if key < k then (key, value) :: (k, v) :: ms
      else if key = k then (k, v) :: ms
      else (k, v) :: place key value ms

mutual

/-- A tree with sorted objects in which the last of repeated keys has won. -/
def sort : Json → Json
  | .array xs => .array (sortItems xs)
  | .object ms => .object (sortMembers ms)
  | .null => .null
  | .bool b => .bool b
  | .number n => .number n
  | .string s => .string s

def sortItems : List Json → List Json
  | [] => []
  | x :: xs => x.sort :: sortItems xs

def sortMembers : List (String × Json) → List (String × Json)
  | [] => []
  | (k, v) :: ms => place k v.sort (sortMembers ms)

end

theorem key_lt_of_not_lt {a b : String} (notBelow : ¬ a < b) (distinct : a ≠ b) : b < a := by
  apply Decidable.byContradiction
  intro notAbove
  exact distinct (String.le_antisymm (String.not_lt.1 notAbove) (String.not_lt.1 notBelow))

theorem keyBefore_place {k key : String} {value : Json} {ms : List (String × Json)}
    (before : keyBefore k ms = true) (below : k < key) :
    keyBefore k (place key value ms) = true := by
  cases ms with
  | nil => simpa [place, keyBefore] using below
  | cons m ms =>
      obtain ⟨l, w⟩ := m
      simp only [place]
      split
      · simpa [keyBefore] using below
      · split <;> simpa [keyBefore] using before

theorem membersSorted_place {key : String} {value : Json} (sorted : value.isSorted = true) :
    (ms : List (String × Json)) → membersSorted ms = true →
      membersSorted (place key value ms) = true
  | [], _ => by simp [place, membersSorted, keyBefore, sorted]
  | (k, v) :: ms, h => by
      have parts := h
      simp only [membersSorted, Bool.and_eq_true] at parts
      simp only [place]
      split
      · next below =>
          have first : keyBefore key ((k, v) :: ms) = true := by simpa [keyBefore] using below
          rw [membersSorted, sorted, first, h]
          rfl
      · next notBelow =>
          split
          · exact h
          · next distinct =>
              have below := key_lt_of_not_lt notBelow distinct
              simp [membersSorted, parts.1.1, keyBefore_place parts.1.2 below,
                membersSorted_place sorted ms parts.2]

mutual

theorem isSorted_sort : (j : Json) → j.sort.isSorted = true
  | .null => rfl
  | .bool _ => rfl
  | .number _ => rfl
  | .string _ => rfl
  | .array xs => itemsSorted_sortItems xs
  | .object ms => membersSorted_sortMembers ms

theorem itemsSorted_sortItems : (xs : List Json) → itemsSorted (sortItems xs) = true
  | [] => rfl
  | x :: xs => by simp [sortItems, itemsSorted, isSorted_sort x, itemsSorted_sortItems xs]

theorem membersSorted_sortMembers :
    (ms : List (String × Json)) → membersSorted (sortMembers ms) = true
  | [] => rfl
  | (_, v) :: ms =>
      membersSorted_place (isSorted_sort v) (sortMembers ms) (membersSorted_sortMembers ms)

end

theorem place_of_keyBefore {key : String} {value : Json} :
    (ms : List (String × Json)) → keyBefore key ms = true →
      place key value ms = (key, value) :: ms
  | [], _ => rfl
  | (k, v) :: ms, h => by
      have below : key < k := by simpa [keyBefore] using h
      simp [place, below]

mutual

theorem sort_of_isSorted : (j : Json) → j.isSorted = true → j.sort = j
  | .null, _ => rfl
  | .bool _, _ => rfl
  | .number _, _ => rfl
  | .string _, _ => rfl
  | .array xs, h => congrArg Json.array (sortItems_of_itemsSorted xs h)
  | .object ms, h => congrArg Json.object (sortMembers_of_membersSorted ms h)

theorem sortItems_of_itemsSorted : (xs : List Json) → itemsSorted xs = true → sortItems xs = xs
  | [], _ => rfl
  | x :: xs, h => by
      simp only [itemsSorted, Bool.and_eq_true] at h
      rw [sortItems, sort_of_isSorted x h.1, sortItems_of_itemsSorted xs h.2]

theorem sortMembers_of_membersSorted :
    (ms : List (String × Json)) → membersSorted ms = true → sortMembers ms = ms
  | [], _ => rfl
  | (k, v) :: ms, h => by
      simp only [membersSorted, Bool.and_eq_true] at h
      rw [sortMembers, sort_of_isSorted v h.1.1, sortMembers_of_membersSorted ms h.2,
        place_of_keyBefore ms h.1.2]

end

end Json

/-- A JSON value as it is understood. -/
structure FreeForm where
  tree : Json
  sorted : tree.isSorted = true
  deriving DecidableEq

structure Members where
  entries : List (String × Json)
  sorted : Json.membersSorted entries = true
  deriving DecidableEq

namespace FreeForm

def ofTree (tree : Json) : FreeForm :=
  ⟨tree.sort, tree.isSorted_sort⟩

@[simp] theorem ofTree_tree (value : FreeForm) : ofTree value.tree = value := by
  cases value with
  | mk tree sorted => simp [ofTree, Json.sort_of_isSorted tree sorted]

def null : FreeForm := ⟨.null, rfl⟩

def isNull (value : FreeForm) : Bool :=
  value == null

def same (a b : FreeForm) : Bool :=
  a.tree.same b.tree

end FreeForm

namespace Members

def ofEntries (entries : List (String × Json)) : Members :=
  ⟨Json.sortMembers entries, Json.membersSorted_sortMembers entries⟩

@[simp] theorem ofEntries_entries (members : Members) : ofEntries members.entries = members := by
  cases members with
  | mk entries sorted => simp [ofEntries, Json.sortMembers_of_membersSorted entries sorted]

def empty : Members := ⟨[], rfl⟩

def isEmpty (members : Members) : Bool :=
  members.entries.isEmpty

theorem isEmpty_iff (members : Members) : members.isEmpty = true ↔ members = empty := by
  constructor
  · intro none
    cases members with
    | mk entries sorted =>
        cases entries with
        | nil => rfl
        | cons m ms => cases none
  · intro same
    rw [same]
    rfl

def same (a b : Members) : Bool :=
  Json.sameMembers a.entries b.entries

end Members

end HolderBond
