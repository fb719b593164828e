import HolderBond.Proofs.Shape.Documents

/-!
# Shapes that read values only

Most shapes read nothing that is not a JSON value, so whatever document they accept can be read
as a value too, and what they make of it is what they make of that value's tree.  Records are
not of this kind: of a member that they drop, they only look for the end.
-/

set_option autoImplicit false

namespace HolderBond

open HolderBond.Json (Scan Input Error)
open Json.Scan

namespace Json.Scan

variable {α β σ : Type} {levels : Nat}

/-- Wherever something is read, a value can be read, and leaves the same. -/
def Retains (read : Scan α) (levels : Nat) : Prop :=
  ∀ input a rest, read.on input = some (a, rest) →
    ∃ tree, (value levels).on input = some (tree, rest)

theorem Retains.map {read : Scan α} (retains : Retains read levels) (f : α → β) :
    Retains (f <$> read) levels := by
  intro input b rest got
  rw [on_map, Option.map_eq_some_iff] at got
  obtain ⟨⟨a, left⟩, got, same⟩ := got
  cases same
  exact retains _ _ _ got

theorem retains_text (levels : Nat) (expected : String) : Retains (text expected) levels := by
  intro input s rest got
  unfold text at got
  rw [on_bind, on_peek, Option.bind_some] at got
  dsimp only at got
  split at got
  · next start =>
      obtain ⟨body, start⟩ := List.head?_eq_some_iff.1 start
      rw [start] at got
      refine ⟨.string s, (on_value_iff _ _).2 ?_⟩
      rw [start]
      exact .string got
  · rw [on_mismatch] at got
    cases got

theorem retains_natural (levels : Nat) (u : Unsigned α) : Retains (natural u) levels := by
  intro input a rest got
  unfold natural at got
  rw [on_bind, on_peek, Option.bind_some] at got
  dsimp only at got
  split at got
  · cases got
  · next g start =>
      obtain ⟨body, start⟩ := List.head?_eq_some_iff.1 start
      rw [on_ite] at got
      split at got
      · next begins =>
          obtain ⟨n, left, read, same⟩ := on_bind_eq_some.1 got
          obtain ⟨-, rfl⟩ := on_ofExcept_iff.1 same
          refine ⟨.number n, (on_value_iff _ _).2 ?_⟩
          rw [start] at read ⊢
          exact .number begins read
      · rw [on_mismatch] at got
        cases got

/-! ## Containers -/

theorem exists_itemsWithin {item : Scan α} (retains : Retains item levels) {clock : Input}
    {first : Bool} {input rest : Input} {xs : List α}
    (read : (itemsWithin item clock first).on input = some (xs, rest)) :
    ∃ trees, (itemsWithin (value levels) clock first).on input = some (trees, rest) := by
  induction clock generalizing first input xs with
  | nil => cases read
  | cons g clock ih =>
      cases itemsWithin_step read with
      | ended stop => exact ⟨[], on_itemsWithin_ended (Nat.succ_pos _) stop⟩
      | more goesOn itemRead later =>
          obtain ⟨tree, treeRead⟩ := retains _ _ _ itemRead
          obtain ⟨trees, treesRead⟩ := ih later
          refine ⟨tree :: trees, ?_⟩
          rw [on_itemsWithin_more goesOn treeRead, treesRead]
          rfl

theorem exists_membersWithin {member : String → σ → Scan σ}
    (retains : ∀ key state input next rest, (member key state).on input = some (next, rest) →
      ∃ body tree, bare input = .char ':' :: body ∧ (value levels).on body = some (tree, rest))
    {clock : Input} {first : Bool} {state final : σ} {input rest : Input}
    (read : (membersWithin member clock first state).on input = some (final, rest))
    (seen : List (String × Json)) :
    ∃ all, (membersWithin (keep (value levels)) clock first seen).on input = some (all, rest) := by
  have step : ∀ key (s : σ) (t : List (String × Json)) input next rest, True → True →
      (member key s).on input = some (next, rest) →
      True ∧ ∃ along, (keep (value levels) key t).on input = some (along, rest) ∧ True := by
    intro key s t input next rest _ _ memberRead
    obtain ⟨body, tree, start, treeRead⟩ := retains _ _ _ _ _ memberRead
    exact ⟨trivial, _, on_keep start treeRead, trivial⟩
  -- Nothing has to be known of the inputs, and nothing relates what is put together.
  obtain ⟨all, keptRead, -⟩ := exists_related (fun _ => True) (fun _ _ => True)
    (fun _ _ _ _ => trivial) step trivial trivial read
  exact ⟨all, keptRead⟩

theorem retains_sequence {inside : Nat → Scan α} {expected : String}
    (array : ∀ deeper body a rest, (inside deeper).on body = some (a, rest) →
      ∃ xs, (items (value deeper)).on body = some (xs, rest)) :
    Retains (sequence levels expected inside) levels := by
  intro input a rest got
  obtain ⟨deeper, body, rfl, start, inner⟩ := on_sequence_cases got
  obtain ⟨xs, read⟩ := array deeper body a rest inner
  refine ⟨.array xs, (on_value_iff _ _).2 ?_⟩
  rw [start]
  exact .array rfl read

theorem retains_mapping {inside : Nat → Scan α} {expected : String}
    (object : ∀ deeper body a rest, (inside deeper).on body = some (a, rest) →
      ∃ reversed, (members (keep (value deeper)) []).on body = some (reversed, rest)) :
    Retains (mapping levels expected inside) levels := by
  intro input a rest got
  obtain ⟨deeper, body, rfl, start, inner⟩ := on_mapping_cases got
  obtain ⟨reversed, read⟩ := object deeper body a rest inner
  refine ⟨.object reversed.reverse, (on_value_iff _ _).2 ?_⟩
  rw [start]
  exact .object rfl read

end Json.Scan

/-! ## Fields -/

/-- Whatever the shape reads could be read as a value. -/
def Shape.Retains {α : Type} (shape : Shape α) : Prop :=
  ∀ levels, Json.Scan.Retains (shape.scan levels) levels

namespace Fields

variable {α β : Type}

def Retains (fields : Fields α) : Prop :=
  ∀ levels name all input next rest, name ∈ fields.keys →
    (fields.scanMember levels name all).on input = some (next, rest) →
    ∃ body tree, bare input = .char ':' :: body ∧ (value levels).on body = some (tree, rest)

theorem retains_nil : Fields.nil.Retains := by
  intro levels name all input next rest known
  cases known

theorem retains_cons {key : String} {presence : Presence α} {shape : Shape α} {others : Fields β}
    (first : shape.Retains) (later : others.Retains) :
    (Fields.cons key presence shape others).Retains := by
  rintro levels name ⟨slot, all⟩ input next rest known read
  rcases scanMember_cases read with
    ⟨-, body, a, start, valueRead, -⟩ | ⟨other, all', memberRead, -⟩
  · obtain ⟨tree, treeRead⟩ := first levels _ _ _ valueRead
    exact ⟨body, tree, start, treeRead⟩
  · exact later _ _ _ _ _ _ ((List.mem_cons.1 known).resolve_left other) memberRead

end Fields

/-! ## Shapes -/

namespace Shape

variable {α β : Type}

theorem retains_value : Shape.value.Retains := by
  intro levels
  exact Json.Scan.Retains.map (fun _ tree _ read => ⟨tree, read⟩) _

theorem retains_text : Shape.text.Retains :=
  fun levels => Json.Scan.retains_text levels _

theorem retains_natural (u : Unsigned α) : (Shape.natural u).Retains :=
  fun levels => Json.Scan.retains_natural levels u

theorem retains_optional {inner : Shape α} (retains : inner.Retains) :
    (Shape.optional inner).Retains := by
  intro levels input a rest read
  rcases optional_cases read with ⟨start, -⟩ | ⟨-, b, -, inside⟩
  · refine ⟨.null, (on_value_iff _ _).2 ?_⟩
    rw [start]
    exact .null
  · obtain ⟨tree, got⟩ := retains levels _ _ _ inside
    rw [skipsSpace_value] at got ⊢
    rw [bare_bare] at got
    exact ⟨tree, got⟩

theorem retains_list {inner : Shape α} (retains : inner.Retains) : (Shape.list inner).Retains := by
  intro levels
  refine retains_sequence fun deeper body xs rest read => ?_
  exact exists_itemsWithin (retains deeper) read

theorem retains_extended {name : String} {fields : Fields α} (retains : fields.Retains) :
    (Shape.extended name fields).Retains := by
  intro levels
  refine retains_mapping fun deeper body a rest inside => ?_
  obtain ⟨⟨all, reversed⟩, left, membersRead, done⟩ := on_bind_eq_some.1 inside
  obtain ⟨b, middle, completed, last⟩ := on_bind_eq_some.1 done
  obtain ⟨-, rfl⟩ := on_ofExcept_iff.1 completed
  cases last
  refine exists_membersWithin ?_ membersRead []
  rintro key ⟨slots, seen⟩ input next rest read
  rw [on_ite] at read
  split at read
  · next known =>
      obtain ⟨slots, left, memberRead, same⟩ := on_bind_eq_some.1 read
      cases same
      exact retains _ _ _ _ _ _ (List.contains_iff_mem.1 known) memberRead
  · obtain ⟨seen, left, memberRead, same⟩ := on_bind_eq_some.1 read
    cases same
    obtain ⟨body, tree, start, treeRead, -⟩ := keep_cases memberRead
    exact ⟨body, tree, start, treeRead⟩

theorem retains_via {inner : Shape α} (retains : inner.Retains) (c : Correspondence α β) :
    (Shape.via inner c).Retains :=
  fun levels => (retains levels).map _

/-- Of a text that can be read as a value, what is read is what is made of that value's tree. -/
theorem ofTree_of_read {shape : Shape α} {text : String} {a : α} {tree : Json}
    (treeRead : Json.read text = .ok tree) (read : shape.read text = .ok a) :
    shape.ofTree tree = .ok a := by
  obtain ⟨rest, got, -⟩ := run_eq_ok.1 read
  obtain ⟨left, value, -⟩ := run_eq_ok.1 treeRead
  rw [shape.scan_follows _ _ _ _ value] at got
  exact (given_eq_some.1 got).1

/-- What is read is what is made of a value that stands in the text. -/
theorem exists_tree_of_read {shape : Shape α} (retains : shape.Retains) {text : String} {a : α}
    (read : shape.read text = .ok a) :
    ∃ tree, Json.read text = .ok tree ∧ shape.ofTree tree = .ok a := by
  obtain ⟨rest, got, ended⟩ := run_eq_ok.1 read
  obtain ⟨tree, treeRead⟩ := retains _ _ _ _ got
  have treeRead : Json.read text = .ok tree := run_eq_ok.2 ⟨rest, treeRead, ended⟩
  exact ⟨tree, treeRead, ofTree_of_read treeRead read⟩

end Shape

end HolderBond
