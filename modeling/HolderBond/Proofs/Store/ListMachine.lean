import HolderBond.Store.Cache

/-!
# The list machine

What a cache does is to be what a list of bonds does: saving puts a bond in front, drops the
others of its name and cuts the list to its limit.  From the operations alone one can tell which
bonds such a list can hold, and in which order.
-/

set_option autoImplicit false

namespace HolderBond

inductive CacheOp where
  | save (bond : Bond)
  | delete (id : String)
  | clear
  | get (id : String)
  | list
  | size
  | isEmpty

inductive CacheAnswer where
  | done (yes : Bool)
  | found (bond : Option Bond)
  | bonds (bonds : List Bond)
  | count (n : Nat)
  deriving DecidableEq

namespace ListMachine

def next (most : Nat) (bonds : List Bond) : CacheOp → List Bond
  | .save bond =>
      if most = 0 then bonds
      else (bond :: bonds.filter fun other => other.id != bond.id).take most
  | .delete id => bonds.filter fun bond => bond.id != id
  | .clear => []
  | .get _ | .list | .size | .isEmpty => bonds

def answer (most : Nat) (bonds : List Bond) : CacheOp → CacheAnswer
  | .save _ => .done (most != 0)
  | .delete id => .done (bonds.any fun bond => bond.id == id)
  | .clear => .done true
  | .get id => .found (bonds.find? fun bond => bond.id == id)
  | .list => .bonds bonds
  | .size => .count bonds.length
  | .isEmpty => .done bonds.isEmpty

def answers (most : Nat) : List Bond → List CacheOp → List CacheAnswer
  | _, [] => []
  | bonds, op :: ops => answer most bonds op :: answers most (next most bonds op) ops

def final (most : Nat) (bonds : List Bond) (ops : List CacheOp) : List Bond :=
  ops.foldl (next most) bonds

/-! ## What was saved last -/

/-- An operation saves a bond, and no later one saves another of its name. -/
def LatestSave (ops : List CacheOp) (time : Nat) (bond : Bond) : Prop :=
  ops[time]? = some (.save bond) ∧
    ∀ later other, time < later → ops[later]? = some (.save other) → other.id ≠ bond.id

theorem LatestSave.lt_length {ops : List CacheOp} {time : Nat} {bond : Bond}
    (latest : LatestSave ops time bond) : time < ops.length :=
  (List.getElem?_eq_some_iff.1 latest.1).1

theorem latestSave_now (ops : List CacheOp) (bond : Bond) :
    LatestSave (ops ++ [.save bond]) ops.length bond := by
  refine ⟨List.getElem?_concat_length, fun later other after saved => ?_⟩
  have inside := (List.getElem?_eq_some_iff.1 saved).1
  rw [List.length_append, List.length_singleton] at inside
  omega

/-- Saving another bond, or none, leaves what was saved last. -/
theorem latestSave_append_iff {ops : List CacheOp} {op : CacheOp} {time : Nat} {bond : Bond}
    (unrelated : ∀ other, op = .save other → other.id ≠ bond.id) :
    LatestSave (ops ++ [op]) time bond ↔ LatestSave ops time bond := by
  have earlier : ∀ t, t < ops.length → (ops ++ [op])[t]? = ops[t]? := fun t inside =>
    List.getElem?_append_left inside
  have lastOne : ∀ t b, ops.length ≤ t → (ops ++ [op])[t]? = some (.save b) → op = .save b := by
    intro t b outside saved
    have inside := (List.getElem?_eq_some_iff.1 saved).1
    rw [List.length_append, List.length_singleton] at inside
    have last : t = ops.length := by omega
    rw [last, List.getElem?_concat_length] at saved
    exact Option.some.inj saved
  constructor
  · rintro ⟨saved, last⟩
    have inside : time < ops.length := by
      rcases Nat.lt_or_ge time ops.length with inside | outside
      · exact inside
      · exact absurd rfl (unrelated bond (lastOne time bond outside saved))
    refine ⟨(earlier time inside).symm.trans saved, fun later other after savedLater => ?_⟩
    have insideLater := (List.getElem?_eq_some_iff.1 savedLater).1
    exact last later other after ((earlier later insideLater).trans savedLater)
  · intro latest
    refine ⟨(earlier time latest.lt_length).trans latest.1, fun later other after saved => ?_⟩
    by_cases inside : later < ops.length
    · exact latest.2 later other after ((earlier later inside).symm.trans saved)
    · exact unrelated other (lastOne later other (Nat.le_of_not_lt inside) saved)

/-- A list of distinct bonds, each as it was saved last, the later saved before the earlier. -/
structure Ordered (ops : List CacheOp) (bonds : List Bond) : Prop where
  distinct : (bonds.map Bond.id).Nodup
  saved : ∀ bond ∈ bonds, ∃ time, LatestSave ops time bond
  newestFirst : bonds.Pairwise fun newer older => ∀ time earlier,
    LatestSave ops time newer → LatestSave ops earlier older → earlier < time

theorem ordered_nil (ops : List CacheOp) : Ordered ops [] :=
  ⟨List.nodup_nil, by simp, List.Pairwise.nil⟩

theorem Ordered.sublist {ops : List CacheOp} {bonds fewer : List Bond} (ordered : Ordered ops bonds)
    (sub : fewer.Sublist bonds) : Ordered ops fewer where
  distinct := ordered.distinct.sublist (sub.map Bond.id)
  saved bond member := ordered.saved bond (sub.subset member)
  newestFirst := ordered.newestFirst.sublist sub

theorem Ordered.append {ops : List CacheOp} {bonds : List Bond} {op : CacheOp}
    (ordered : Ordered ops bonds)
    (unrelated : ∀ bond ∈ bonds, ∀ other, op = .save other → other.id ≠ bond.id) :
    Ordered (ops ++ [op]) bonds where
  distinct := ordered.distinct
  saved bond member := by
    obtain ⟨time, latest⟩ := ordered.saved bond member
    exact ⟨time, (latestSave_append_iff (unrelated bond member)).2 latest⟩
  newestFirst := by
    refine ordered.newestFirst.imp_of_mem ?_
    intro newer older newerMember olderMember before time earlier latest latestOlder
    exact before time earlier ((latestSave_append_iff (unrelated newer newerMember)).1 latest)
      ((latestSave_append_iff (unrelated older olderMember)).1 latestOlder)

/-- A bond that is saved now goes before the others. -/
theorem Ordered.cons {ops : List CacheOp} {bonds : List Bond} {bond : Bond}
    (ordered : Ordered ops bonds) (fresh : ∀ other ∈ bonds, other.id ≠ bond.id) :
    Ordered (ops ++ [.save bond]) (bond :: bonds) := by
  have unrelated : ∀ other ∈ bonds, ∀ saved, CacheOp.save bond = .save saved →
      saved.id ≠ other.id := by
    rintro other member _ ⟨⟩
    exact (fresh other member).symm
  have later := ordered.append unrelated
  refine ⟨?_, ?_, ?_⟩
  · rw [List.map_cons, List.nodup_cons]
    refine ⟨fun member => ?_, later.distinct⟩
    obtain ⟨other, old, same⟩ := List.mem_map.1 member
    exact fresh other old same
  · intro other member
    rcases List.mem_cons.1 member with rfl | old
    · exact ⟨ops.length, latestSave_now ops other⟩
    · exact later.saved other old
  · refine List.pairwise_cons.2 ⟨fun older member time earlier latest latestOlder => ?_,
      later.newestFirst⟩
    have inside := ((latestSave_append_iff (unrelated older member)).1 latestOlder).lt_length
    -- The bond's latest save is the one just made: any before it has been repeated now.
    rcases Nat.lt_or_ge time ops.length with before | now
    · exact absurd rfl (latest.2 ops.length bond before List.getElem?_concat_length)
    · exact Nat.lt_of_lt_of_le inside now

/-- What every list is like that a run makes from nothing. -/
structure Recent (most : Nat) (ops : List CacheOp) (bonds : List Bond) : Prop
    extends Ordered ops bonds where
  few : bonds.length ≤ most

theorem recent_next {most : Nat} {ops : List CacheOp} {bonds : List Bond}
    (recent : Recent most ops bonds) (positive : 0 < most) (op : CacheOp) :
    Recent most (ops ++ [op]) (next most bonds op) := by
  have kept : ∀ fewer : List Bond, fewer.Sublist bonds → (∀ bond, op ≠ .save bond) →
      Recent most (ops ++ [op]) fewer := by
    intro fewer sub noSave
    have unrelated : ∀ bond ∈ fewer, ∀ other, op = .save other → other.id ≠ bond.id :=
      fun _ _ other isSave => absurd isSave (noSave other)
    exact ⟨(recent.toOrdered.sublist sub).append unrelated,
      Nat.le_trans sub.length_le recent.few⟩
  cases op with
  | save bond =>
      have others := recent.toOrdered.sublist
        (List.filter_sublist (p := fun other : Bond => other.id != bond.id))
      have fresh : ∀ other ∈ bonds.filter fun other => other.id != bond.id, other.id ≠ bond.id := by
        intro other member
        simpa using (List.mem_filter.1 member).2
      rw [next, if_neg (Nat.ne_of_gt positive)]
      exact ⟨(others.cons fresh).sublist (List.take_sublist most _), List.length_take_le most _⟩
  | delete id => exact kept _ List.filter_sublist (by simp)
  | clear => exact kept _ (List.nil_sublist _) (by simp)
  | get id => exact kept _ (List.Sublist.refl _) (by simp)
  | list => exact kept _ (List.Sublist.refl _) (by simp)
  | size => exact kept _ (List.Sublist.refl _) (by simp)
  | isEmpty => exact kept _ (List.Sublist.refl _) (by simp)

theorem recent_foldl {most : Nat} (positive : 0 < most) (ops : List CacheOp)
    {before : List CacheOp} {bonds : List Bond} (recent : Recent most before bonds) :
    Recent most (before ++ ops) (final most bonds ops) := by
  -- The operations done so far vary along: each step moves one of them over.
  induction ops generalizing before bonds with
  | nil =>
      rw [List.append_nil]
      exact recent
  | cons op ops ih =>
      have later := ih (recent_next recent positive op)
      rw [List.append_assoc] at later
      exact later

/-- Every run from nothing keeps distinct bonds, not too many, the latest saved first. -/
theorem recent_final {most : Nat} (positive : 0 < most) (ops : List CacheOp) :
    Recent most ops (final most [] ops) :=
  recent_foldl positive ops ⟨ordered_nil [], Nat.zero_le _⟩

end ListMachine

end HolderBond
