import HolderBond.Bond.Disclosures
import HolderBond.Proofs.Json.Members

/-!
# What becomes of the fields of a query

Each field of a query result ends up in the slots dedicated to its name or, as it stands, among
the custom fields.  There is one exception: an age counts as fitting its slots as soon as it was
asked "at least this", so an answer to that which names neither a number nor a flag ends up
nowhere.
-/

set_option autoImplicit false

namespace HolderBond

/-! ## Slots -/

def Json.at? : List String → Json → Option Json
  | [], value => some value
  | key :: path, value => (value.member? key).bind (at? path)

/-- A fact that has a place of its own among the disclosures. -/
inductive Slot where
  | ageThreshold
  | ageThresholdMet
  | nationality
  | passportValid
  | issuingCountry
  deriving DecidableEq

namespace Slot

def field : Slot → String
  | ageThreshold | ageThresholdMet => "age"
  | nationality => "nationality"
  | passportValid => "expiry_date"
  | issuingCountry => "issuing_country"

def path : Slot → List String
  | ageThreshold => ["gte", "expected"]
  | ageThresholdMet | passportValid => ["gte", "result"]
  | nationality | issuingCountry => ["disclose", "result"]

/-- What a slot can hold: naturals of 32 bits, flags or texts. -/
def admits : Slot → Json → Bool
  | ageThreshold, .number (.natural n) => n.toNat < UInt32.size
  | ageThresholdMet, .bool _ | passportValid, .bool _ => true
  | nationality, .string _ | issuingCountry, .string _ => true
  | _, _ => false

def told? (slot : Slot) (answer : Json) : Option Json :=
  (answer.at? slot.path).filter slot.admits

def held : Slot → Disclosures → Option Json
  | ageThreshold, d => d.ageThreshold.map fun n => .number (.natural n.toUInt64)
  | ageThresholdMet, d => d.ageThresholdMet.map .bool
  | nationality, d => d.nationality.map .string
  | passportValid, d => d.passportValid.map .bool
  | issuingCountry, d => d.issuingCountry.map .string

section Told

variable {slot : Slot}

theorem admitted_word (fact : Json) :
    (if ageThreshold.admits fact then some fact else none) =
      (Disclosures.word? fact).map fun n => .number (.natural n.toUInt64) := by
  rcases fact with _ | _ | (n | k | x) | _ | _ | _ <;> try rfl
  by_cases small : n.toNat < UInt32.size
  · have back : (UInt32.ofNat n.toNat).toUInt64 = n := by
      rw [← UInt64.toNat_inj, UInt32.toNat_toUInt64, UInt32.toNat_ofNat_of_lt' small]
    simp only [admits, Disclosures.word?, Unsigned.word, small, decide_true, if_true,
      Option.map_some, back]
  · simp only [admits, Disclosures.word?, Unsigned.word, small, decide_false, if_false,
      Option.map_none, Bool.false_eq_true]

theorem admitted_flag (flags : ∀ fact, slot.admits fact = fact.bool?.isSome) (fact : Json) :
    (if slot.admits fact then some fact else none) = fact.bool?.map .bool := by
  rw [flags]
  cases fact <;> rfl

theorem admitted_text (texts : ∀ fact, slot.admits fact = fact.string?.isSome) (fact : Json) :
    (if slot.admits fact then some fact else none) = fact.string?.map .string := by
  rw [texts]
  cases fact <;> rfl

/-- A fact is read from where it stands, if it is of the kind that the slot holds. -/
theorem told?_eq {α : Type} {read : Json → Option α} {wrap : α → Json} {first second : String}
    (path : slot.path = [first, second])
    (kind : ∀ fact, (if slot.admits fact then some fact else none) = (read fact).map wrap)
    (answer : Json) :
    slot.told? answer =
      (((answer.member? first).bind (Json.member? second)).bind read).map wrap := by
  have found : answer.at? [first, second] = (answer.member? first).bind (Json.member? second) := by
    simp [Json.at?]
  rw [told?, path, found]
  cases (answer.member? first).bind (Json.member? second) with
  | none => rfl
  | some fact => rw [Option.filter_some, kind, Option.bind_some]

theorem told?_ageThreshold (answer : Json) :
    ageThreshold.told? answer =
      (((Disclosures.atLeast? answer).bind (Json.member? "expected")).bind
        Disclosures.word?).map fun n => .number (.natural n.toUInt64) :=
  told?_eq rfl admitted_word answer

theorem told?_ageThresholdMet (answer : Json) :
    ageThresholdMet.told? answer =
      (((Disclosures.atLeast? answer).bind (Json.member? "result")).bind Json.bool?).map .bool :=
  told?_eq rfl (admitted_flag fun fact => by cases fact <;> rfl) answer

theorem told?_nationality (answer : Json) :
    nationality.told? answer = (Disclosures.disclosed? answer).map .string :=
  told?_eq rfl (admitted_text fun fact => by cases fact <;> rfl) answer

theorem told?_passportValid (answer : Json) :
    passportValid.told? answer =
      (((Disclosures.atLeast? answer).bind (Json.member? "result")).bind Json.bool?).map .bool :=
  told?_eq rfl (admitted_flag fun fact => by cases fact <;> rfl) answer

theorem told?_issuingCountry (answer : Json) :
    issuingCountry.told? answer = (Disclosures.disclosed? answer).map .string :=
  told?_eq rfl (admitted_text fun fact => by cases fact <;> rfl) answer

end Told

end Slot

namespace Disclosures

/-! ## One field -/

/-- An age that was asked "at least this" and whose answer says nothing for its slots. -/
def Overlooked (name : String) (answer : Json) : Prop :=
  name = "age" ∧ (answer.at? ["gte"]).isSome = true ∧
    ∀ slot : Slot, slot.field = name → slot.told? answer = .none

def Fits (name : String) (answer : Json) : Prop :=
  Overlooked name answer ∨ ∃ slot : Slot, slot.field = name ∧ (slot.told? answer).isSome = true

theorem at?_gte (answer : Json) : answer.at? ["gte"] = atLeast? answer := by
  simp [Json.at?, atLeast?]

theorem fits_age_iff {answer : Json} :
    Fits "age" answer ↔ (atLeast? answer).isSome = true := by
  rw [← at?_gte]
  constructor
  · rintro (⟨-, asked, -⟩ | ⟨slot, field, told⟩)
    · exact asked
    · rw [at?_gte]
      cases asked : atLeast? answer with
      | none =>
          cases slot <;>
            simp_all [Slot.field, Slot.told?_ageThreshold, Slot.told?_ageThresholdMet]
      | some bound => rfl
  · intro asked
    by_cases told : ∃ slot : Slot, slot.field = "age" ∧ (slot.told? answer).isSome = true
    · exact Or.inr told
    · refine Or.inl ⟨rfl, asked, fun slot field => ?_⟩
      cases said : slot.told? answer with
      | none => rfl
      | some fact => exact absurd ⟨slot, field, by rw [said]; rfl⟩ told

/-- What taking a field comes to: if it fits, the slots of its name say what it says, and
otherwise nothing changes. -/
def Taken (name : String) (answer : Json) (d : Disclosures) (result : Disclosures × Bool) : Prop :=
  (Fits name answer ∧ ∃ filled, result = (filled, true) ∧
    ∀ slot : Slot, slot.held filled =
      if slot.field = name then slot.told? answer else slot.held d) ∨
  (¬ Fits name answer ∧ result = (d, false))

theorem taken_age {answer : Json} {d : Disclosures} {result : Disclosures × Bool}
    (asked : ∀ bound, atLeast? answer = some bound → result =
      ({ d with
          ageThreshold := (bound.member? "expected").bind word?
          ageThresholdMet := (bound.member? "result").bind Json.bool? }, true))
    (unasked : atLeast? answer = .none → result = (d, false)) :
    Taken "age" answer d result := by
  cases found : atLeast? answer with
  | none => exact Or.inr ⟨by simp [fits_age_iff, found], unasked found⟩
  | some bound =>
      refine Or.inl ⟨by simp [fits_age_iff, found], _, asked bound found, fun slot => ?_⟩
      cases slot <;>
        simp [Slot.field, Slot.held, Slot.told?_ageThreshold, Slot.told?_ageThresholdMet, found]

theorem taken_single {α : Type} (own : Slot) {answer : Json} {d : Disclosures}
    (put : α → Disclosures) {result : Disclosures × Bool} {found : Option α} {wrap : α → Json}
    (only : ∀ slot : Slot, slot.field = own.field → slot = own) (notAge : own.field ≠ "age")
    (told : own.told? answer = found.map wrap)
    (held : ∀ a (slot : Slot), slot.held (put a) = if slot = own then some (wrap a) else slot.held d)
    (some : ∀ a, found = some a → result = (put a, true))
    (none : found = .none → result = (d, false)) :
    Taken own.field answer d result := by
  have fits : Fits own.field answer ↔ (own.told? answer).isSome = true := by
    constructor
    · rintro (⟨age, -⟩ | ⟨slot, field, told⟩)
      · exact absurd age notAge
      · rwa [← only slot field]
    · exact fun told => Or.inr ⟨own, rfl, told⟩
  cases said : found with
  | none => exact Or.inr ⟨by simp [fits, told, said], none said⟩
  | some a =>
      refine Or.inl ⟨by simp [fits, told, said], _, some a said, fun slot => ?_⟩
      rw [held]
      by_cases same : slot = own
      · simp [same, told, said]
      · simp [same, mt (only slot) same]

theorem taken_fillSlot (name : String) (answer : Json) (d : Disclosures) :
    Taken name answer d (fillSlot name answer d) := by
  unfold fillSlot
  split
  · next named =>
      subst named
      exact taken_age (fun bound found => by rw [found]) (fun found => by rw [found])
  · next notAge =>
      split
      · next named =>
          subst named
          exact taken_single .nationality (fun country => { d with nationality := some country })
            (fun slot => by cases slot <;> decide) notAge (Slot.told?_nationality answer)
            (fun country slot => by cases slot <;> rfl)
            (fun country said => by rw [said]) (fun said => by rw [said])
      · next notNationality =>
          split
          · next named =>
              subst named
              exact taken_single .passportValid (fun valid => { d with passportValid := some valid })
                (fun slot => by cases slot <;> decide) notAge (Slot.told?_passportValid answer)
                (fun valid slot => by cases slot <;> rfl)
                (fun valid said => by rw [said]) (fun said => by rw [said])
          · next notExpiry =>
              split
              · next named =>
                  subst named
                  exact taken_single .issuingCountry
                    (fun country => { d with issuingCountry := some country })
                    (fun slot => by cases slot <;> decide) notAge
                    (Slot.told?_issuingCountry answer) (fun country slot => by cases slot <;> rfl)
                    (fun country said => by rw [said]) (fun said => by rw [said])
              · next notCountry =>
                  refine Or.inr ⟨?_, rfl⟩
                  rintro (⟨age, -⟩ | ⟨slot, field, -⟩)
                  · exact notAge age
                  · cases slot <;> simp_all [Slot.field]

/-! ## All fields -/

theorem sortOut_cons (name : String) (answer : Json) (entries : List (String × Json)) :
    (Fits name answer ∧ ∃ filled, sortOut ((name, answer) :: entries) =
        (filled, (sortOut entries).2) ∧
      ∀ slot : Slot, slot.held filled =
        if slot.field = name then slot.told? answer else slot.held (sortOut entries).1) ∨
    (¬ Fits name answer ∧
      sortOut ((name, answer) :: entries) =
        ((sortOut entries).1, (name, answer) :: (sortOut entries).2)) := by
  rcases taken_fillSlot name answer (sortOut entries).1 with
    ⟨fits, filled, taken, held⟩ | ⟨unfit, taken⟩
  · have step : sortOut ((name, answer) :: entries) = (filled, (sortOut entries).2) := by
      simp only [sortOut] at taken ⊢
      simp only [List.foldr_cons, taken]
    exact Or.inl ⟨fits, filled, step, held⟩
  · have step : sortOut ((name, answer) :: entries) =
        ((sortOut entries).1, (name, answer) :: (sortOut entries).2) := by
      simp only [sortOut] at taken ⊢
      simp only [List.foldr_cons, taken]
    exact Or.inr ⟨unfit, step⟩

theorem sublist_sortOut (entries : List (String × Json)) :
    (sortOut entries).2.Sublist entries := by
  induction entries with
  | nil => exact List.Sublist.refl []
  | cons entry entries ih =>
      obtain ⟨name, answer⟩ := entry
      rcases sortOut_cons name answer entries with ⟨-, filled, step, -⟩ | ⟨-, step⟩
      · rw [step]
        exact ih.cons _
      · rw [step]
        exact ih.cons_cons _

theorem mem_sortOut_iff (member : String × Json) (entries : List (String × Json)) :
    member ∈ (sortOut entries).2 ↔ member ∈ entries ∧ ¬ Fits member.1 member.2 := by
  induction entries with
  | nil => simp [sortOut]
  | cons entry entries ih =>
      obtain ⟨name, answer⟩ := entry
      rcases sortOut_cons name answer entries with ⟨fits, filled, step, -⟩ | ⟨unfit, step⟩
      · rw [step, ih, List.mem_cons]
        constructor
        · exact fun ⟨old, unfit⟩ => ⟨Or.inr old, unfit⟩
        · rintro ⟨rfl | old, unfit⟩
          · exact absurd fits unfit
          · exact ⟨old, unfit⟩
      · rw [step, List.mem_cons, List.mem_cons, ih]
        constructor
        · rintro (rfl | ⟨old, kept⟩)
          · exact ⟨Or.inl rfl, unfit⟩
          · exact ⟨Or.inr old, kept⟩
        · rintro ⟨rfl | old, kept⟩
          · exact Or.inl rfl
          · exact Or.inr ⟨old, kept⟩

/-- A slot holds what the field of its name says, and nothing without that field. -/
theorem held_sortOut (slot : Slot) {entries : List (String × Json)}
    (distinct : (entries.map Prod.fst).Nodup) :
    slot.held (sortOut entries).1 = (Json.latest slot.field entries).bind slot.told? := by
  induction entries with
  | nil => cases slot <;> rfl
  | cons entry entries ih =>
      obtain ⟨name, answer⟩ := entry
      have later := ih (List.nodup_cons.1 distinct).2
      by_cases own : slot.field = name
      · have absent : Json.latest slot.field entries = .none := by
          rw [own]
          exact Json.latest_eq_none_of_nodup distinct
        rw [absent] at later
        have here : Json.latest slot.field ((name, answer) :: entries) = some answer := by
          rw [Json.latest_cons, absent, Option.none_or, if_pos own.symm]
        rw [here, Option.bind_some]
        rcases sortOut_cons name answer entries with ⟨-, filled, step, held⟩ | ⟨unfit, step⟩
        · rw [step, held, if_pos own]
        · rw [step, later]
          cases told : slot.told? answer with
          | none => rfl
          | some fact => exact absurd (Or.inr ⟨slot, own, by rw [told]; rfl⟩) unfit
      · have elsewhere : Json.latest slot.field ((name, answer) :: entries) =
            Json.latest slot.field entries := by
          simp [Ne.symm own]
        rw [elsewhere, ← later]
        rcases sortOut_cons name answer entries with ⟨-, filled, step, held⟩ | ⟨-, step⟩
        · rw [step, held, if_neg own]
        · rw [step]

/-! ## Whole query results -/

section Query

variable {query : FreeForm} {entries : List (String × Json)}

theorem ofQuery_object (found : query.tree = .object entries) :
    ofQuery query =
      { (sortOut entries).1 with custom := Members.ofEntries (sortOut entries).2 } := by
  rw [ofQuery, found]

theorem ofQuery_other (other : ∀ entries, query.tree ≠ .object entries) : ofQuery query = none := by
  unfold ofQuery
  split
  · next entries found => exact absurd found (other entries)
  · rfl

theorem sorted_of_object (found : query.tree = .object entries) :
    Json.membersSorted entries = true := by
  have sorted := query.sorted
  rwa [found] at sorted

theorem nodup_of_object (found : query.tree = .object entries) : (entries.map Prod.fst).Nodup :=
  Json.nodup_of_membersSorted (sorted_of_object found)

theorem mem_custom_iff (found : query.tree = .object entries) (member : String × Json) :
    member ∈ (ofQuery query).custom.entries ↔ member ∈ entries ∧ ¬ Fits member.1 member.2 := by
  have sorted := Json.membersSorted_of_sublist (sublist_sortOut entries) (sorted_of_object found)
  have same : (ofQuery query).custom.entries = (sortOut entries).2 := by
    rw [ofQuery_object found]
    exact Json.sortMembers_of_membersSorted _ sorted
  rw [same, mem_sortOut_iff]

theorem held_ofQuery (found : query.tree = .object entries) (slot : Slot) :
    slot.held (ofQuery query) = (Json.latest slot.field entries).bind slot.told? := by
  rw [← held_sortOut slot (nodup_of_object found), ofQuery_object found]
  cases slot <;> rfl

theorem held_of_mem (found : query.tree = .object entries) {slot : Slot} {answer : Json}
    (member : (slot.field, answer) ∈ entries) :
    slot.held (ofQuery query) = slot.told? answer := by
  rw [held_ofQuery found, (Json.latest_eq_some_iff (nodup_of_object found)).2 member]
  rfl

end Query

theorem isEmpty_iff (d : Disclosures) :
    d.isEmpty = true ↔ (∀ slot : Slot, slot.held d = .none) ∧ d.custom.entries = [] := by
  have slots : (∀ slot : Slot, slot.held d = .none) ↔
      d.ageThreshold = .none ∧ d.ageThresholdMet = .none ∧ d.nationality = .none ∧
        d.passportValid = .none ∧ d.issuingCountry = .none := by
    constructor
    · intro silent
      have threshold := silent .ageThreshold
      have met := silent .ageThresholdMet
      have nationality := silent .nationality
      have valid := silent .passportValid
      have country := silent .issuingCountry
      simp only [Slot.held, Option.map_eq_none_iff] at threshold met nationality valid country
      exact ⟨threshold, met, nationality, valid, country⟩
    · rintro ⟨threshold, met, nationality, valid, country⟩ slot
      cases slot <;> simp [Slot.held, threshold, met, nationality, valid, country]
  rw [slots]
  simp [isEmpty, Members.isEmpty, and_assoc]

/-! ## The account -/

/-- A field stands among the custom fields as it is, and only there. -/
structure Keeps (d : Disclosures) (name : String) (answer : Json) : Prop where
  custom : (name, answer) ∈ d.custom.entries
  slots : ∀ slot : Slot, slot.field = name → slot.held d = .none

/-- Some slot of its name holds what a field says, and no custom field has that name. -/
structure Tells (d : Disclosures) (name : String) (answer : Json) : Prop where
  slot : ∃ (slot : Slot) (fact : Json),
    slot.field = name ∧ slot.told? answer = some fact ∧ slot.held d = some fact
  custom : ∀ other, (name, other) ∉ d.custom.entries

structure Lacks (d : Disclosures) (name : String) : Prop where
  slots : ∀ slot : Slot, slot.field = name → slot.held d = .none
  custom : ∀ other, (name, other) ∉ d.custom.entries

section Account

variable {query : FreeForm} {entries : List (String × Json)} {name : String} {answer : Json}

theorem not_mem_custom_of_fits (found : query.tree = .object entries)
    (member : (name, answer) ∈ entries) (fits : Fits name answer) (other : Json) :
    (name, other) ∉ (ofQuery query).custom.entries := by
  intro kept
  obtain ⟨old, unfit⟩ := (mem_custom_iff found _).1 kept
  have distinct := nodup_of_object found
  have same : some other = some answer :=
    ((Json.latest_eq_some_iff distinct).2 old).symm.trans
      ((Json.latest_eq_some_iff distinct).2 member)
  rw [Option.some.inj same] at unfit
  exact unfit fits

theorem keeps_or_tells (found : query.tree = .object entries)
    (member : (name, answer) ∈ entries) (heeded : ¬ Overlooked name answer) :
    (ofQuery query).Keeps name answer ∨ (ofQuery query).Tells name answer := by
  by_cases told : ∃ slot : Slot, slot.field = name ∧ (slot.told? answer).isSome = true
  · refine Or.inr ⟨?_, not_mem_custom_of_fits found member (Or.inr told)⟩
    obtain ⟨slot, rfl, some⟩ := told
    obtain ⟨fact, heard⟩ := Option.isSome_iff_exists.1 some
    exact ⟨slot, fact, rfl, heard, (held_of_mem found member).trans heard⟩
  · have unfit : ¬ Fits name answer := fun fits => fits.elim heeded told
    refine Or.inl ⟨(mem_custom_iff found _).2 ⟨member, unfit⟩, ?_⟩
    rintro slot rfl
    rw [held_of_mem found member]
    cases heard : slot.told? answer with
    | none => rfl
    | some fact => exact absurd ⟨slot, rfl, by rw [heard]; rfl⟩ told

theorem lacks_of_overlooked (found : query.tree = .object entries)
    (member : (name, answer) ∈ entries) (overlooked : Overlooked name answer) :
    (ofQuery query).Lacks name where
  slots := by
    rintro slot rfl
    rw [held_of_mem found member]
    exact overlooked.2.2 slot rfl
  custom := not_mem_custom_of_fits found member (Or.inl overlooked)

theorem isEmpty_iff_overlooked (found : query.tree = .object entries) :
    (ofQuery query).isEmpty = true ↔
      ∀ name answer, (name, answer) ∈ entries → Overlooked name answer := by
  rw [isEmpty_iff]
  constructor
  · rintro ⟨silent, bare⟩ name answer member
    refine Classical.byContradiction fun heeded => ?_
    rcases keeps_or_tells found member heeded with keeps | tells
    · have kept := keeps.custom
      rw [bare] at kept
      cases kept
    · obtain ⟨slot, fact, -, -, held⟩ := tells.slot
      rw [silent] at held
      cases held
  · intro overlooked
    constructor
    · intro slot
      rw [held_ofQuery found]
      cases said : Json.latest slot.field entries with
      | none => rfl
      | some answer =>
          have member := (Json.latest_eq_some_iff (nodup_of_object found)).1 said
          exact (overlooked _ _ member).2.2 slot rfl
    · refine List.eq_nil_iff_forall_not_mem.2 fun member kept => ?_
      obtain ⟨old, unfit⟩ := (mem_custom_iff found member).1 kept
      exact unfit (Or.inl (overlooked member.1 member.2 old))

/-- Overlooked fields all have one name, and the keys of an object are distinct. -/
theorem forall_overlooked_iff (distinct : (entries.map Prod.fst).Nodup) :
    (∀ name answer, (name, answer) ∈ entries → Overlooked name answer) ↔
      entries = [] ∨ ∃ answer, entries = [("age", answer)] ∧ Overlooked "age" answer := by
  constructor
  · intro overlooked
    match entries with
    | [] => exact Or.inl rfl
    | [(name, answer)] =>
        have only := overlooked name answer List.mem_cons_self
        obtain rfl := only.1
        exact Or.inr ⟨answer, rfl, only⟩
    | (first, _) :: (second, _) :: rest =>
        have firstAge := (overlooked first _ List.mem_cons_self).1
        have secondAge := (overlooked second _ (List.mem_cons_of_mem _ List.mem_cons_self)).1
        simp [firstAge, secondAge] at distinct
  · rintro (rfl | ⟨answer, rfl, overlooked⟩) name other member
    · cases member
    · cases List.mem_singleton.1 member
      exact overlooked

end Account

end Disclosures

/-- Every field of a query result is accounted for once: it is kept as it is or told by a slot of
its name, never both, and there are no custom fields besides.  Only an overlooked age is found in
neither.  So nothing is disclosed only if there is no field but an overlooked age. -/
theorem fields_accounted_for (query : FreeForm) :
    let disclosures := Disclosures.ofQuery query
    (∀ entries, query.tree = .object entries →
      (∀ name answer, (name, answer) ∈ entries →
        (¬ Disclosures.Overlooked name answer →
          disclosures.Keeps name answer ∨ disclosures.Tells name answer) ∧
        (Disclosures.Overlooked name answer → disclosures.Lacks name)) ∧
      ∀ member ∈ disclosures.custom.entries, member ∈ entries) ∧
    (disclosures.isEmpty = true ↔
      (∀ entries, query.tree ≠ .object entries) ∨ query.tree = .object [] ∨
        ∃ answer, query.tree = .object [("age", answer)] ∧
          Disclosures.Overlooked "age" answer) := by
  intro disclosures
  constructor
  · intro entries found
    refine ⟨fun name answer member => ⟨Disclosures.keeps_or_tells found member,
      Disclosures.lacks_of_overlooked found member⟩, fun member kept => ?_⟩
    exact ((Disclosures.mem_custom_iff found member).1 kept).1
  · by_cases object : ∃ entries, query.tree = .object entries
    · obtain ⟨entries, found⟩ := object
      rw [Disclosures.isEmpty_iff_overlooked found,
        Disclosures.forall_overlooked_iff (Disclosures.nodup_of_object found), found]
      simp
    · have other : ∀ entries, query.tree ≠ .object entries := fun entries found =>
        object ⟨entries, found⟩
      have nothing : disclosures.isEmpty = true := by
        rw [show disclosures = Disclosures.none from Disclosures.ofQuery_other other]
        rfl
      exact iff_of_true nothing (Or.inl other)

def Json.ageFrom (bound : Json) : Json :=
  .object [("gte", .object [("expected", bound)])]

def Json.amongSome : Json :=
  .object [("in", .object [("result", .bool true)])]

theorem fields_accounted_for_sample :
    let age := Json.ageFrom (.number (.natural 18))
    let query := FreeForm.ofTree (.object [("nationality", Json.amongSome), ("age", age)])
    let disclosures := Disclosures.ofQuery query
    query.tree = .object [("age", age), ("nationality", Json.amongSome)] ∧
      disclosures.Tells "age" age ∧ disclosures.Keeps "nationality" Json.amongSome ∧
      disclosures.isEmpty = false := by
  intro age query disclosures
  have found : query.tree = .object [("age", age), ("nationality", Json.amongSome)] := by decide
  obtain ⟨⟨account, -⟩, empty⟩ : _ ∧ _ :=
    ⟨(fields_accounted_for query).1 _ found, (fields_accounted_for query).2⟩
  have ageHeeded : ¬ Disclosures.Overlooked "age" age := fun overlooked =>
    absurd (overlooked.2.2 .ageThreshold rfl) (by decide)
  have nationalityHeeded : ¬ Disclosures.Overlooked "nationality" Json.amongSome :=
    fun overlooked => absurd overlooked.1 (by decide)
  refine ⟨found, ?_, ?_, ?_⟩
  · rcases (account "age" age (by decide)).1 ageHeeded with keeps | tells
    · exact absurd keeps.custom (by decide)
    · exact tells
  · rcases (account "nationality" _ (by decide)).1 nationalityHeeded with keeps | tells
    · exact keeps
    · exact absurd (tells.custom Json.amongSome) (by decide)
  · cases nothing : disclosures.isEmpty with
    | false => rfl
    | true =>
        rcases empty.1 nothing with other | bare | ⟨answer, single, -⟩
        · exact absurd found (other _)
        · rw [found] at bare
          cases bare
        · rw [found] at single
          cases single

/-- An age whose bound is written as text ends up in no slot and not among the custom fields, and
the query that asked for it counts as disclosing nothing. -/
theorem worded_age_lost :
    let age := Json.ageFrom (.string "18")
    let query := FreeForm.ofTree (.object [("age", age)])
    let disclosures := Disclosures.ofQuery query
    query.tree = .object [("age", age)] ∧
      ¬ disclosures.Keeps "age" age ∧ ¬ disclosures.Tells "age" age ∧
      disclosures.isEmpty = true := by
  intro age query disclosures
  have nothing : disclosures = Disclosures.none := by decide
  refine ⟨by decide, fun keeps => ?_, fun tells => ?_, by rw [nothing]; rfl⟩
  · have kept := keeps.custom
    rw [nothing] at kept
    cases kept
  · obtain ⟨slot, fact, -, -, held⟩ := tells.slot
    rw [nothing] at held
    cases slot <;> cases held

end HolderBond
