import HolderBond.Shape.Basic

/-!
# Disclosures

The facts that an identity query brought to light.  A query result maps field names to what
was asked about them; four fields have slots of their own, and whatever does not fit its
slot is kept as it is under its name.
-/

set_option autoImplicit false

namespace HolderBond

open Fields

structure Disclosures where
  ageThreshold : Option UInt32
  ageThresholdMet : Option Bool
  nationality : Option String
  passportValid : Option Bool
  issuingCountry : Option String
  /-- Every other field of the query. -/
  custom : Members
  deriving DecidableEq

namespace Disclosures

def shape : Shape Disclosures :=
  .via
    (.record "IdentityDisclosures" true <|
      optional "ageThreshold" .word <|
      optional "ageThresholdMet" .flag <|
      optional "nationality" .text <|
      optional "passportValid" .flag <|
      optional "issuingCountry" .text <|
      .cons "custom" .nonemptyMembers .members .nil)
    { make := fun (ageThreshold, ageThresholdMet, nationality, passportValid, issuingCountry,
          custom, ()) =>
        ⟨ageThreshold, ageThresholdMet, nationality, passportValid, issuingCountry, custom⟩
      view := fun d =>
        (d.ageThreshold, d.ageThresholdMet, d.nationality, d.passportValid, d.issuingCountry,
          d.custom, ())
      make_view := fun _ => rfl
      view_make := fun _ => rfl }

def none : Disclosures :=
  ⟨.none, .none, .none, .none, .none, .empty⟩

def isEmpty (d : Disclosures) : Bool :=
  d.ageThreshold.isNone && d.ageThresholdMet.isNone && d.nationality.isNone &&
    d.passportValid.isNone && d.issuingCountry.isNone && d.custom.isEmpty

/-! ## From query results -/

def word? : Json → Option UInt32
  | .number (.natural n) => Unsigned.word.ofNat? n.toNat
  | _ => .none

/-- What was answered to "at least this". -/
def atLeast? (answer : Json) : Option Json :=
  answer.member? "gte"

def disclosed? (answer : Json) : Option String :=
  ((answer.member? "disclose").bind (Json.member? "result")).bind Json.string?

/-- A field put into the slot it has, with whether it fitted there. -/
def fillSlot (name : String) (answer : Json) (d : Disclosures) : Disclosures × Bool :=
  if name = "age" then
    match atLeast? answer with
    | some bound =>
        ({ d with
            ageThreshold := (bound.member? "expected").bind word?
            ageThresholdMet := (bound.member? "result").bind Json.bool? }, true)
    | .none => (d, false)
  else if name = "nationality" then
    match disclosed? answer with
    | some country => ({ d with nationality := some country }, true)
    | .none => (d, false)
  else if name = "expiry_date" then
    match ((atLeast? answer).bind (Json.member? "result")).bind Json.bool? with
    | some valid => ({ d with passportValid := some valid }, true)
    | .none => (d, false)
  else if name = "issuing_country" then
    match disclosed? answer with
    | some country => ({ d with issuingCountry := some country }, true)
    | .none => (d, false)
  else (d, false)

/-- The slots filled from some fields, and the fields that fitted no slot. -/
def sortOut (entries : List (String × Json)) : Disclosures × List (String × Json) :=
  entries.foldr (fun (name, answer) (d, others) =>
    match fillSlot name answer d with
    | (filled, true) => (filled, others)
    | (_, false) => (d, (name, answer) :: others)) (none, [])

def ofQuery (result : FreeForm) : Disclosures :=
  match result.tree with
  | .object entries =>
      let (slots, others) := sortOut entries
      { slots with custom := Members.ofEntries others }
  | _ => none

end Disclosures

end HolderBond
