import HolderBond.Proofs.Verification.Checks

/-!
# Edits of a bond

Each check reads its own data, so that writing another value over one field of a bond changes one
check at most.  The nullifier is compared with the one of the binding that is derived again, not
with that of the stored one: an edit of the binding does not show in it.
-/

set_option autoImplicit false

namespace HolderBond

/-- The writing of a value over a field of a bond.  The commitments, the scope and epoch that the
binding is derived from, the bundles and the facts taken from them are left alone. -/
inductive Edit where
  | binding (value : Bytes32)
  | nullifier (value : Bytes32)
  | policyScope (value : UInt64)
  | policyRail (value : String)
  | validUntil (value : UInt64)
  | version (value : String)
  | id (value : String)
  | timestamp (value : UInt64)
  | uniqueIdentifier (value : Option String)
  | policyId (value : UInt64)
  | threshold (value : UInt64)
  | currency (value : String)
  | currencyCode (value : UInt32)
  | balance (value : Option BalanceSnapshot)
  | purpose (value : String)
  | scope (value : String)
  | devMode (value : Option Bool)
  | note (value : Option String)
  | domain (value : Option String)

namespace Edit

def apply : Edit → Bond → Bond
  | .binding value, bond => { bond with binding.binding := value }
  | .nullifier value, bond => { bond with binding.nullifier := value }
  | .policyScope value, bond => { bond with funds.policy.scopeId := value }
  | .policyRail value, bond => { bond with funds.policy.railId := value }
  | .validUntil value, bond => { bond with metadata.validUntil := value }
  | .version value, bond => { bond with version := value }
  | .id value, bond => { bond with id := value }
  | .timestamp value, bond => { bond with timestamp := value }
  | .uniqueIdentifier value, bond => { bond with identity.uniqueIdentifier := value }
  | .policyId value, bond => { bond with funds.policy.policyId := value }
  | .threshold value, bond => { bond with funds.policy.threshold := value }
  | .currency value, bond => { bond with funds.policy.currency := value }
  | .currencyCode value, bond => { bond with funds.policy.currencyCode := value }
  | .balance value, bond => { bond with funds.balance := value }
  | .purpose value, bond => { bond with metadata.purpose := value }
  | .scope value, bond => { bond with metadata.scope := value }
  | .devMode value, bond => { bond with metadata.devMode := value }
  | .note value, bond => { bond with metadata.note := value }
  | .domain value, bond => { bond with metadata.domain := value }

def isUnread : Edit → Bool
  | .binding _ | .nullifier _ | .policyScope _ | .policyRail _ | .validUntil _ => false
  | _ => true

def effect (verifier : Verifier) (bond : Bond) (now : UInt64) : Edit → Checks → Checks
  | .binding value, checks =>
      let derived := HolderBinding.derive (Verifier.bindingInput bond) verifier.params
      { checks with binding.bindingMatched := derived.binding == value }
  | .nullifier value, checks =>
      let derived := HolderBinding.derive (Verifier.bindingInput bond) verifier.params
      { checks with binding.nullifierMatched := derived.nullifier == value }
  | .policyScope value, checks =>
      { checks with binding.scopeMatched := bond.binding.scopeId == value }
  | .policyRail value, checks =>
      { checks with funds.railMatched := bond.funds.bundle.effectiveRail == value }
  | .validUntil value, checks => { checks with expiry := ⟨value, now, now > value⟩ }
  | _, checks => checks

def applyAll (edits : List Edit) (bond : Bond) : Bond :=
  edits.foldl (fun edited edit => edit.apply edited) bond

def effects (verifier : Verifier) (bond : Bond) (now : UInt64) (edits : List Edit)
    (checks : Checks) : Checks :=
  edits.foldl (fun revised edit => edit.effect verifier bond now revised) checks

theorem effect_of_unread (verifier : Verifier) (bond : Bond) (now : UInt64) {edit : Edit}
    (unread : edit.isUnread = true) (checks : Checks) :
    edit.effect verifier bond now checks = checks := by
  cases edit <;> first | exact absurd unread Bool.false_ne_true | rfl

theorem effects_of_unread (verifier : Verifier) (bond : Bond) (now : UInt64) {edits : List Edit}
    (unread : ∀ edit ∈ edits, edit.isUnread = true) (checks : Checks) :
    effects verifier bond now edits checks = checks := by
  induction edits with
  | nil => rfl
  | cons edit rest ih =>
    calc effects verifier bond now rest (edit.effect verifier bond now checks)
      _ = effects verifier bond now rest checks := by
        rw [effect_of_unread verifier bond now (unread edit List.mem_cons_self)]
      _ = checks := ih fun other later => unread other (List.mem_cons_of_mem _ later)

variable (edit : Edit) (bond : Bond)

@[simp]
theorem bindingInput_apply :
    Verifier.bindingInput (edit.apply bond) = Verifier.bindingInput bond := by
  cases edit <;> rfl

@[simp]
theorem scopeId_apply : (edit.apply bond).binding.scopeId = bond.binding.scopeId := by
  cases edit <;> rfl

@[simp]
theorem bundle_apply : (edit.apply bond).funds.bundle = bond.funds.bundle := by
  cases edit <;> rfl

/-- What an edit does to the checks is not changed by the edits before it. -/
theorem effect_apply (verifier : Verifier) (now : UInt64) (next : Edit) :
    next.effect verifier (edit.apply bond) now = next.effect verifier bond now := by
  cases next <;> funext checks <;> simp [effect]

end Edit

def Verdict.revised (verdict : Verdict) (change : Checks → Checks) : Verdict :=
  .ofChecks (change verdict.checks) verdict.error

namespace Verifier

variable (verifier : Verifier) (bond : Bond) (now : UInt64)

theorem verifyAt_apply (edit : Edit) :
    verifier.verifyAt (edit.apply bond) now =
      (verifier.verifyAt bond now).revised (edit.effect verifier bond now) := by
  cases edit <;> rfl

theorem verifyAt_applyAll (edits : List Edit) :
    verifier.verifyAt (Edit.applyAll edits bond) now =
      (verifier.verifyAt bond now).revised (Edit.effects verifier bond now edits) := by
  induction edits generalizing bond with
  | nil => rfl
  | cons edit rest ih =>
    have later : Edit.effects verifier (edit.apply bond) now rest =
        Edit.effects verifier bond now rest := by
      funext checks
      simp only [Edit.effects, Edit.effect_apply]
    calc verifier.verifyAt (Edit.applyAll rest (edit.apply bond)) now
      _ = (verifier.verifyAt (edit.apply bond) now).revised
          (Edit.effects verifier bond now rest) := by rw [ih, later]
      _ = ((verifier.verifyAt bond now).revised (edit.effect verifier bond now)).revised
          (Edit.effects verifier bond now rest) := by rw [verifyAt_apply]
      _ = (verifier.verifyAt bond now).revised
          (Edit.effects verifier bond now (edit :: rest)) := rfl

theorem verifyAt_of_unread {edits : List Edit} (unread : ∀ edit ∈ edits, edit.isUnread = true) :
    verifier.verifyAt (Edit.applyAll edits bond) now = verifier.verifyAt bond now := by
  rw [verifyAt_applyAll, Verdict.revised, Edit.effects_of_unread verifier bond now unread]
  rfl

/-- A binding that matched is the only one that does. -/
theorem verifyAt_rebound {value : Bytes32}
    (matched : (verifier.verifyAt bond now).checks.binding.bindingMatched = true)
    (other : value ≠ bond.binding.binding) :
    let verdict := verifier.verifyAt bond now
    verifier.verifyAt ((Edit.binding value).apply bond) now =
      { verdict with
        valid := false
        bindingVerified := false
        checks.binding.bindingMatched := false } := by
  have derived : (HolderBinding.derive (bindingInput bond) verifier.params).binding =
      bond.binding.binding := by
    simpa [verifyAt, Verdict.ofChecks, checkBinding, HolderBinding.agrees] using matched
  have mismatch : ((HolderBinding.derive (bindingInput bond) verifier.params).binding == value) =
      false := by
    rw [derived]
    exact beq_false_of_ne other.symm
  intro verdict
  rw [verifyAt_apply]
  simp only [Verdict.revised, Edit.effect, mismatch, Verdict.ofChecks, BindingChecks.all,
    Bool.false_and, Bool.and_false]
  rfl

end Verifier

/-- An edit changes the check that reads what was written and no other: the edits of several fields
in series change those of each, and those of fields that no check reads change nothing.  If the
binding matched, writing another over it changes that one check, and with it the flags of its
group and of the whole. -/
theorem checks_isolated (verifier : Verifier) (bond : Bond) (now : UInt64) :
    let verdict := verifier.verifyAt bond now
    (∀ edit : Edit, verifier.verifyAt (edit.apply bond) now =
      verdict.revised (edit.effect verifier bond now)) ∧
    (∀ edits : List Edit, verifier.verifyAt (Edit.applyAll edits bond) now =
      verdict.revised (Edit.effects verifier bond now edits)) ∧
    (∀ edits : List Edit, (∀ edit ∈ edits, edit.isUnread = true) →
      verifier.verifyAt (Edit.applyAll edits bond) now = verdict) ∧
    ∀ value : Bytes32, verdict.checks.binding.bindingMatched = true →
      value ≠ bond.binding.binding →
      verifier.verifyAt ((Edit.binding value).apply bond) now =
        { verdict with
          valid := false
          bindingVerified := false
          checks.binding.bindingMatched := false } :=
  ⟨verifier.verifyAt_apply bond now, verifier.verifyAt_applyAll bond now,
    fun _ unread => verifier.verifyAt_of_unread bond now unread,
    fun _ matched other => verifier.verifyAt_rebound bond now matched other⟩

theorem checks_isolated_sample :
    let verifier := Verifier.structural .v1 .standard
    let bond := BondRequest.sample.bond .v1 .start 0
    let verdict := verifier.verifyAt ((Edit.binding .zero).apply bond) 0
    (verifier.verifyAt (Edit.applyAll [.note (some "seen"), .id "bond"] bond) 0).valid = true ∧
      verdict.valid = false ∧ verdict.checks.binding.bindingMatched = false ∧
      verdict.checks.binding.nullifierMatched = true := by
  intro verifier bond verdict
  have passes : verifier.Passes bond 0 := BondRequest.sample_passes
  obtain ⟨matched, nullified⟩ := (Verifier.matched_iff verifier bond 0).2 passes.matched
  obtain ⟨-, -, unread, rebound⟩ := checks_isolated verifier bond 0
  have rebound := rebound .zero matched (by decide +kernel)
  refine ⟨?_, ?_, ?_, ?_⟩
  · rw [unread _ (by simp [Edit.isUnread])]
    exact (verifier.valid_iff_passes bond 0).2 passes
  · exact congrArg Verdict.valid rebound
  · exact congrArg (·.checks.binding.bindingMatched) rebound
  · simp only [verdict, rebound, nullified]

end HolderBond
