import HolderBond.Json.Basic

/-!
# Members by their keys

An object says of every key which value it has, the last one where a key is repeated, and sorted
members are told apart by nothing else.  So what an edit of an object does is said by what it
does to the value of each key.
-/

set_option autoImplicit false

namespace HolderBond.Json

/-- The value of a key, the last one if the key is repeated. -/
def latest (key : String) : List (String × Json) → Option Json
  | [] => none
  | (k, v) :: ms => (latest key ms).or (if k = key then some v else none)

section Latest

variable {key : String} {ms ns : List (String × Json)}

@[simp] theorem latest_nil (key : String) : latest key [] = none := rfl

@[simp] theorem latest_cons (key : String) (m : String × Json) (ms : List (String × Json)) :
    latest key (m :: ms) = (latest key ms).or (if m.1 = key then some m.2 else none) := rfl

@[simp] theorem latest_append (key : String) (ms ns : List (String × Json)) :
    latest key (ms ++ ns) = (latest key ns).or (latest key ms) := by
  induction ms with
  | nil => simp
  | cons m ms ih => simp [ih, Option.or_assoc]

theorem latest_eq_none_iff : latest key ms = none ↔ ∀ m ∈ ms, m.1 ≠ key := by
  induction ms with
  | nil => simp
  | cons m ms ih => simp [ih, and_comm]

theorem latest_eq_none_of_nodup {m : String × Json}
    (distinct : ((m :: ms).map Prod.fst).Nodup) : latest m.1 ms = none := by
  rw [List.map_cons, List.nodup_cons] at distinct
  rw [latest_eq_none_iff]
  intro n member same
  exact distinct.1 (List.mem_map.2 ⟨n, member, same⟩)

theorem latest_eq_some_iff (distinct : (ms.map Prod.fst).Nodup) {value : Json} :
    latest key ms = some value ↔ (key, value) ∈ ms := by
  induction ms with
  | nil => simp
  | cons m ms ih =>
      obtain ⟨k, v⟩ := m
      have later := ih (List.nodup_cons.1 distinct).2
      rw [latest_cons, List.mem_cons, Prod.mk.injEq]
      by_cases here : k = key
      · subst here
        have absent : latest k ms = none := latest_eq_none_of_nodup distinct
        rw [← later, absent]
        simp [eq_comm]
      · simp [here, Ne.symm here, later]

theorem latest_place (k : String) (v : Json) (ms : List (String × Json)) :
    latest key (place k v ms) = (latest key ms).or (if k = key then some v else none) := by
  induction ms with
  | nil => rfl
  | cons m ms ih =>
      obtain ⟨l, w⟩ := m
      rw [place]
      split
      · rfl
      · split
        · next same =>
            subst same
            by_cases here : k = key <;> simp [here]
        · next distinct =>
            rw [latest_cons, ih, latest_cons]
            by_cases here : k = key
            · have other : l ≠ key := fun same => distinct (here.trans same.symm)
              simp [other]
            · simp [here]

@[simp] theorem latest_sortMembers (key : String) (ms : List (String × Json)) :
    latest key (sortMembers ms) = (latest key ms).map sort := by
  induction ms with
  | nil => rfl
  | cons m ms ih =>
      obtain ⟨k, v⟩ := m
      rw [sortMembers, latest_place, ih, latest_cons]
      by_cases here : k = key
      · cases latest key ms <;> simp [here]
      · simp [here]

theorem latest_filter_key (keep : String → Bool) (ms : List (String × Json)) (key : String) :
    latest key (ms.filter fun m => keep m.1) = if keep key then latest key ms else none := by
  induction ms with
  | nil => simp
  | cons m ms ih =>
      by_cases here : m.1 = key
      · subst here
        cases kept : keep m.1 <;> simp_all
      · cases kept : keep m.1 <;> simp_all

end Latest

/-! ## Sorted members -/

theorem membersSorted_tail {m : String × Json} {ms : List (String × Json)}
    (sorted : membersSorted (m :: ms) = true) : membersSorted ms = true := by
  simp only [membersSorted, Bool.and_eq_true] at sorted
  exact sorted.2

theorem lt_of_membersSorted {k : String} {v : Json} {ms : List (String × Json)}
    (sorted : membersSorted ((k, v) :: ms) = true) : ∀ m ∈ ms, k < m.1 := by
  induction ms generalizing k v with
  | nil => simp
  | cons m ms ih =>
      have tail := membersSorted_tail sorted
      have below : k < m.1 := by
        rw [membersSorted, Bool.and_eq_true, Bool.and_eq_true] at sorted
        exact of_decide_eq_true sorted.1.2
      intro n member
      rcases List.mem_cons.1 member with rfl | old
      · exact below
      · exact String.lt_trans below (ih tail n old)

theorem membersSorted_of_sublist {ms ns : List (String × Json)} (part : ns.Sublist ms)
    (sorted : membersSorted ms = true) : membersSorted ns = true := by
  induction part with
  | slnil => rfl
  | cons m part ih => exact ih (membersSorted_tail sorted)
  | @cons_cons ns ms m part ih =>
      obtain ⟨k, v⟩ := m
      have first : keyBefore k ns = true := by
        cases ns with
        | nil => rfl
        | cons n ns =>
            exact decide_eq_true (lt_of_membersSorted sorted n (part.subset List.mem_cons_self))
      have tail := ih (membersSorted_tail sorted)
      simp only [membersSorted, Bool.and_eq_true] at sorted ⊢
      exact ⟨⟨sorted.1.1, first⟩, tail⟩

theorem nodup_of_membersSorted {ms : List (String × Json)} (sorted : membersSorted ms = true) :
    (ms.map Prod.fst).Nodup := by
  induction ms with
  | nil => simp
  | cons m ms ih =>
      rw [List.map_cons, List.nodup_cons]
      refine ⟨fun member => ?_, ih (membersSorted_tail sorted)⟩
      obtain ⟨n, old, same⟩ := List.mem_map.1 member
      have below := lt_of_membersSorted sorted n old
      rw [same] at below
      exact String.lt_irrefl _ below

theorem latest_head {k : String} {v : Json} {ms : List (String × Json)}
    (sorted : membersSorted ((k, v) :: ms) = true) : latest k ((k, v) :: ms) = some v := by
  have absent : latest k ms = none := latest_eq_none_iff.2 fun m member =>
    (String.ne_of_lt (lt_of_membersSorted sorted m member)).symm
  simp [absent]

theorem latest_of_lt {k l : String} {w : Json} {ms : List (String × Json)}
    (sorted : membersSorted ((l, w) :: ms) = true) (below : k < l) :
    latest k ((l, w) :: ms) = none := by
  rw [latest_eq_none_iff]
  intro m member
  rcases List.mem_cons.1 member with rfl | old
  · exact (String.ne_of_lt below).symm
  · exact (String.ne_of_lt (String.lt_trans below (lt_of_membersSorted sorted m old))).symm

/-- Sorted members that agree on every key are the same. -/
theorem eq_of_latest : {ms ns : List (String × Json)} → membersSorted ms = true →
    membersSorted ns = true → (∀ key, latest key ms = latest key ns) → ms = ns
  | [], [], _, _, _ => rfl
  | [], (l, w) :: ns, _, sorted, agree => by
      have head := (agree l).symm.trans rfl
      rw [latest_head sorted] at head
      cases head
  | (k, v) :: ms, [], sorted, _, agree => by
      have head := agree k
      rw [latest_head sorted] at head
      cases head
  | (k, v) :: ms, (l, w) :: ns, sortedMs, sortedNs, agree => by
      -- The smaller of two different first keys would have a value on one side only.
      have noneBelow : ¬ k < l := by
        intro below
        have head := agree k
        rw [latest_head sortedMs, latest_of_lt sortedNs below] at head
        cases head
      have noneAbove : ¬ l < k := by
        intro above
        have head := agree l
        rw [latest_head sortedNs, latest_of_lt sortedMs above] at head
        cases head
      have sameKey : k = l :=
        String.le_antisymm (String.not_lt.1 noneAbove) (String.not_lt.1 noneBelow)
      subst sameKey
      have sameValue : v = w := by
        have head := agree k
        rw [latest_head sortedMs, latest_head sortedNs] at head
        exact Option.some.inj head
      subst sameValue
      have others : ∀ key, latest key ms = latest key ns := by
        intro key
        by_cases here : k = key
        · subst here
          have absent : ∀ {rest : List (String × Json)},
              membersSorted ((k, v) :: rest) = true → latest k rest = none := fun sorted =>
            latest_eq_none_iff.2 fun m member =>
              (String.ne_of_lt (lt_of_membersSorted sorted m member)).symm
          rw [absent sortedMs, absent sortedNs]
        · simpa [here] using agree key
      rw [eq_of_latest (membersSorted_tail sortedMs) (membersSorted_tail sortedNs) others]

/-- Objects are understood alike if they agree on every key. -/
theorem sortMembers_eq {ms ns : List (String × Json)}
    (agree : ∀ key, (latest key ms).map sort = (latest key ns).map sort) :
    sortMembers ms = sortMembers ns := by
  refine eq_of_latest (membersSorted_sortMembers ms) (membersSorted_sortMembers ns) fun key => ?_
  rw [latest_sortMembers, latest_sortMembers, agree]

/-! ## Edits -/

def leaveOut (listed : List (String × Json)) (ms : List (String × Json)) : List (String × Json) :=
  ms.filter fun m => m ∉ listed

def adapt (key : String) (f : Json → Json) (ms : List (String × Json)) : List (String × Json) :=
  ms.map fun m => if m.1 = key then (m.1, f m.2) else m

def supply (key : String) (d : Json) (ms : List (String × Json)) : List (String × Json) :=
  if (latest key ms).isSome then ms else (key, d) :: ms

def restrict (keys : List String) (ms : List (String × Json)) : List (String × Json) :=
  ms.filter fun m => m.1 ∈ keys

def onMembers (f : List (String × Json) → List (String × Json)) : Json → Json
  | .object ms => .object (f ms)
  | tree => tree

def onItems (f : Json → Json) : Json → Json
  | .array xs => .array (xs.map f)
  | tree => tree

section Edits

variable {ms : List (String × Json)}

theorem latest_filter (keep : String × Json → Bool) (distinct : (ms.map Prod.fst).Nodup)
    (key : String) :
    latest key (ms.filter keep) = (latest key ms).filter fun v => keep (key, v) := by
  induction ms with
  | nil => rfl
  | cons m ms ih =>
      obtain ⟨k, v⟩ := m
      have later := ih (List.nodup_cons.1 distinct).2
      by_cases here : k = key
      · subst here
        have absent : latest k ms = none := latest_eq_none_of_nodup distinct
        rw [absent] at later
        cases kept : keep (k, v) <;> simp_all [Option.filter]
      · cases kept : keep (k, v) <;> simp_all

@[simp] theorem filter_true (found : Option Json) : found.filter (fun _ => true) = found := by
  cases found <;> rfl

theorem latest_leaveOut (listed : List (String × Json)) (distinct : (ms.map Prod.fst).Nodup)
    (key : String) :
    latest key (leaveOut listed ms) = (latest key ms).filter fun v => (key, v) ∉ listed :=
  latest_filter _ distinct key

theorem latest_restrict (keys : List String) (ms : List (String × Json)) (key : String) :
    latest key (restrict keys ms) = if key ∈ keys then latest key ms else none := by
  have only := latest_filter_key (fun k => decide (k ∈ keys)) ms key
  simpa only [restrict, decide_eq_true_eq] using only

theorem nodup_restrict (keys : List String) (distinct : (ms.map Prod.fst).Nodup) :
    ((restrict keys ms).map Prod.fst).Nodup :=
  distinct.sublist (List.filter_sublist.map Prod.fst)

theorem latest_adapt_same (key : String) (f : Json → Json) (ms : List (String × Json)) :
    latest key (adapt key f ms) = (latest key ms).map f := by
  induction ms with
  | nil => rfl
  | cons m ms ih =>
      rw [adapt] at ih ⊢
      by_cases here : m.1 = key
      · cases latest key ms <;> simp_all
      · simp_all

theorem latest_adapt_other {key other : String} (distinct : other ≠ key) (f : Json → Json)
    (ms : List (String × Json)) : latest other (adapt key f ms) = latest other ms := by
  induction ms with
  | nil => rfl
  | cons m ms ih =>
      rw [adapt] at ih ⊢
      by_cases here : m.1 = key
      · have elsewhere : m.1 ≠ other := fun same => distinct (same.symm.trans here)
        simp_all
      · simp_all

theorem latest_supply_same (key : String) (d : Json) (ms : List (String × Json)) :
    latest key (supply key d ms) = some ((latest key ms).getD d) := by
  rw [supply]
  cases found : latest key ms <;> simp [found]

theorem latest_supply_other {key other : String} (distinct : other ≠ key) (d : Json)
    (ms : List (String × Json)) : latest other (supply key d ms) = latest other ms := by
  rw [supply]
  split
  · rfl
  · simp [Ne.symm distinct]

end Edits

end HolderBond.Json
