import HolderBond.Proofs.Shape.Documents

/-!
# More levels change no reading

Whatever is read within some number of levels of arrays and objects is read as the same within
more of them.  So the text of a value is either read as that value or refused, however deep the
value is.
-/

set_option autoImplicit false

namespace HolderBond

open HolderBond.Json (Scan Input Error)
open HolderBond.Text (Glyph)

namespace Json.Scan

variable {α β σ : Type} {levels : Nat}

/-- Whatever a reader gives, the other gives too. -/
def Extends (more read : Scan α) : Prop :=
  ∀ input result, read.on input = some result → more.on input = some result

theorem Extends.refl (read : Scan α) : Extends read read :=
  fun _ _ got => got

theorem extends_fail (more : Scan α) (e : Error) : Extends more (fail e) := by
  intro input result got
  cases got

theorem Extends.bind {read more : Scan α} {next after : α → Scan β} (first : Extends more read)
    (later : ∀ a, Extends (after a) (next a)) : Extends (more >>= after) (read >>= next) := by
  intro input result got
  rw [on_bind, Option.bind_eq_some_iff] at got ⊢
  obtain ⟨middle, firstRead, laterRead⟩ := got
  exact ⟨middle, first _ _ firstRead, later _ _ _ laterRead⟩

theorem Extends.after {next more : α → Scan β} (read : Scan α)
    (later : ∀ a, Extends (more a) (next a)) : Extends (read >>= more) (read >>= next) :=
  (Extends.refl read).bind later

theorem Extends.before {read more : Scan α} (first : Extends more read) (next : α → Scan β) :
    Extends (more >>= next) (read >>= next) :=
  first.bind fun a => .refl (next a)

theorem Extends.map {read more : Scan α} (first : Extends more read) (f : α → β) :
    Extends (f <$> more) (f <$> read) := by
  intro input result got
  rw [on_map, Option.map_eq_some_iff] at got ⊢
  obtain ⟨taken, read, same⟩ := got
  exact ⟨taken, first _ _ read, same⟩

theorem Extends.ite {condition : Prop} [Decidable condition] {read more other others : Scan α}
    (yes : Extends more read) (no : Extends others other) :
    Extends (if condition then more else others) (if condition then read else other) := by
  split
  · exact yes
  · exact no

/-! ## Containers -/

theorem Extends.itemsWithin {item more : Scan α} (each : Extends more item) (clock : Input)
    (first : Bool) : Extends (itemsWithin more clock first) (itemsWithin item clock first) := by
  induction clock generalizing first with
  | nil => exact .refl _
  | cons g clock ih =>
      unfold Scan.itemsWithin
      refine .after _ fun goesOn => .ite ?_ (.refl _)
      exact each.bind fun a => (ih false).before _

theorem Extends.items {item more : Scan α} (each : Extends more item) :
    Extends (items more) (items item) :=
  .after _ fun clock => each.itemsWithin clock true

theorem Extends.membersWithin {member more : String → σ → Scan σ}
    (each : ∀ key state, Extends (more key state) (member key state)) (clock : Input)
    (first : Bool) (state : σ) :
    Extends (membersWithin more clock first state) (membersWithin member clock first state) := by
  induction clock generalizing first state with
  | nil => exact .refl _
  | cons g clock ih =>
      unfold Scan.membersWithin
      refine .after _ fun goesOn => .ite ?_ (.refl _)
      exact .after _ fun key => (each key state).bind fun next => ih false next

theorem Extends.members {member more : String → σ → Scan σ}
    (each : ∀ key state, Extends (more key state) (member key state)) (state : σ) :
    Extends (members more state) (members member state) :=
  .after _ fun clock => .membersWithin each clock true state

theorem extends_sequence {inside : Nat → Scan α} (expected : String)
    (each : ∀ deeper, Extends (inside (deeper + 1)) (inside deeper)) :
    Extends (sequence (levels + 1) expected inside) (sequence levels expected inside) := by
  unfold sequence
  refine .after _ fun start => ?_
  split
  · cases levels with
    | zero => exact extends_fail _ _
    | succ deeper => exact .after _ fun _ => each deeper
  · exact .refl _

theorem extends_mapping {inside : Nat → Scan α} (expected : String)
    (each : ∀ deeper, Extends (inside (deeper + 1)) (inside deeper)) :
    Extends (mapping (levels + 1) expected inside) (mapping levels expected inside) := by
  unfold mapping
  refine .after _ fun start => ?_
  split
  · cases levels with
    | zero => exact extends_fail _ _
    | succ deeper => exact .after _ fun _ => each deeper
  · exact .refl _

theorem Extends.keep {item more : Scan Json} (each : Extends more item) (key : String)
    (seen : List (String × Json)) : Extends (keep more key seen) (keep item key seen) :=
  .after _ fun _ => each.before _

/-! ## Values -/

theorem extends_valueOver {item : Scan Json} {nested : Option (Scan Json)}
    (each : ∀ less, nested = some less → Extends item less) :
    Extends (valueOver (some item)) (valueOver nested) := by
  rintro input ⟨tree, rest⟩ got
  rw [on_valueOver_iff] at got ⊢
  generalize bare input = start at got ⊢
  cases got with
  | null => exact .null
  | yes => exact .yes
  | no => exact .no
  | string read => exact .string read
  | array allowed read => exact .array rfl ((each _ allowed).items _ _ read)
  | object allowed read =>
      exact .object rfl (Extends.members (fun key seen => (each _ allowed).keep key seen) [] _ _ read)
  | number begins read => exact .number begins read

theorem extends_value (levels : Nat) : Extends (value (levels + 1)) (value levels) := by
  induction levels with
  | zero => exact extends_valueOver (by simp)
  | succ deeper ih =>
      refine extends_valueOver fun less same => ?_
      cases same
      exact ih

theorem extends_choice (c : Choice α) : Extends (choice c (levels + 1)) (choice c levels) := by
  unfold choice
  refine .after _ fun start => ?_
  split
  · exact .refl _
  · exact .refl _
  · rw [if_neg (Nat.succ_ne_zero levels)]
    split
    · exact extends_fail _ _
    · exact .refl _
  · exact .refl _

end Json.Scan

open Json.Scan

mutual

theorem Shape.scan_extends : {α : Type} → (shape : Shape α) → (levels : Nat) →
    Extends (shape.scan (levels + 1)) (shape.scan levels)
  | _, .value, levels => (extends_value levels).map _
  | _, .text, _ => .refl _
  | _, .flag, _ => .refl _
  | _, .natural _, _ => .refl _
  | _, .written _, _ => .refl _
  | _, .choice c, _ => extends_choice c
  | _, .optional inner, levels => by
      unfold Shape.scan
      refine .after _ fun start => ?_
      split
      · exact .refl _
      · exact (inner.scan_extends levels).map _
  | _, .list inner, _ => extends_sequence _ fun deeper => (inner.scan_extends deeper).items
  | _, .members, _ => by
      unfold Shape.scan
      refine extends_mapping _ fun deeper => Extends.before (.members (fun key seen => ?_) _) _
      exact (extends_value deeper).keep key seen
  | _, .record name positional fields, _ => by
      unfold Shape.scan
      refine .after _ fun start => ?_
      split
      · refine .ite (extends_sequence _ fun deeper => ?_) (.refl _)
        exact (fields.scanItems_extends deeper _ _).before _
      · refine extends_mapping _ fun deeper => Extends.before (.members (fun key all => ?_) _) _
        exact .ite (fields.scanMember_extends deeper key all) (.refl _)
  | _, .extended name fields, _ => by
      unfold Shape.scan
      refine extends_mapping _ fun deeper => Extends.before (.members (fun key state => ?_) _) _
      refine .ite ((fields.scanMember_extends deeper key _).before _) ?_
      exact Extends.before ((extends_value deeper).keep key _) _
  | _, .via inner _, levels => (inner.scan_extends levels).map _

theorem Fields.scanMember_extends : {α : Type} → (fields : Fields α) → (levels : Nat) →
    (name : String) → (all : fields.Slots) →
    Extends (fields.scanMember (levels + 1) name all) (fields.scanMember levels name all)
  | _, .nil, _, _, _ => .refl _
  | _, .cons _ _ shape rest, levels, name, all => by
      unfold Fields.scanMember
      refine .ite (.ite ?_ ?_) ?_
      · exact .after _ fun _ => .after _ fun _ => (shape.scan_extends levels).before _
      · exact .after _ fun _ => (shape.scan_extends levels).before _
      · exact (rest.scanMember_extends levels name all.2).before _

theorem Fields.scanItems_extends : {α : Type} → (fields : Fields α) → (levels : Nat) →
    (expected : String) → (index : Nat) →
    Extends (fields.scanItems (levels + 1) expected index) (fields.scanItems levels expected index)
  | _, .nil, _, _, _ => .refl _
  | _, .cons _ presence shape rest, levels, expected, index => by
      have later := rest.scanItems_extends levels expected (index + 1)
      unfold Fields.scanItems
      refine .after _ fun goesOn => .ite ?_ ?_
      · exact (shape.scan_extends levels).bind fun a => later.before _
      · split
        · exact .refl _
        · exact later.before _

end

namespace Shape

variable {α : Type}

/-- Within more levels, more is read, and nothing is read otherwise. -/
theorem scan_mono (shape : Shape α) {levels more : Nat} (le : levels ≤ more) :
    Extends (shape.scan more) (shape.scan levels) := by
  induction le with
  | refl => exact .refl _
  | step _ ih => exact fun input result got => shape.scan_extends _ input result (ih input result got)

/-- If the text of a settled value is read at all, it is read as what is made of the value's
tree. -/
theorem ofTree_of_read_render {shape : Shape α} {a b : α} (settled : (shape.write a).Settled)
    (read : shape.read (shape.render a) = .ok b) : shape.ofTree (shape.write a) = .ok b := by
  obtain ⟨rest, within, -⟩ := run_eq_ok.1 read
  -- Within enough levels the whole text is its tree's, and the reading within fewer is part of that.
  let most := max Json.maxLevels (shape.write a).levels
  have deep := shape.scan_mono (Nat.le_max_left _ _ : Json.maxLevels ≤ most) _ _ within
  have written : (Scan.value most).on (Text.glyphs (shape.render a)) = some (shape.write a, []) :=
    Json.on_value_render settled (Nat.le_max_right _ _)
  rw [shape.scan_follows most _ _ _ written] at deep
  exact (given_eq_some.1 deep).1

/-- The text of a settled value is read as that value, if it is read at all. -/
theorem eq_of_read_render {shape : Shape α} (sound : shape.Sound) {a b : α}
    (faithful : shape.Faithful a) (settled : (shape.write a).Settled)
    (read : shape.read (shape.render a) = .ok b) : b = a := by
  have made := ofTree_of_read_render settled read
  rw [shape.ofTree_write sound a faithful] at made
  exact (Except.ok.inj made).symm

/-- It is read exactly if it is not too deep. -/
theorem read_render_iff {shape : Shape α} (sound : shape.Sound)
    (enough : shape.floor ≤ Json.maxLevels) {a b : α} (faithful : shape.Faithful a)
    (settled : (shape.write a).Settled) :
    shape.read (shape.render a) = .ok b ↔ b = a ∧ (shape.write a).levels ≤ Json.maxLevels := by
  constructor
  · intro read
    have same := eq_of_read_render sound faithful settled read
    subst same
    exact ⟨rfl, (within_of_readGlyphs sound enough read).2⟩
  · rintro ⟨rfl, small⟩
    exact read_render sound ⟨faithful, small⟩ settled

end Shape

end HolderBond
