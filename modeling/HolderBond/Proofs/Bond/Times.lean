import HolderBond.Proofs.Bond.Creation
import HolderBond.Proofs.Bond.CreatedVerdict
import HolderBond.Proofs.Byte.Hex

/-!
# The times of a bond

The name, the timestamp, the epoch and the expiry of a bond are taken from one instant by
different ways.  They agree: all of them follow from the millisecond that the instant lies in,
before 1970 as well, and the expiry follows from the epoch by the unbounded sum, cut off at the
largest value.
-/

set_option autoImplicit false

namespace HolderBond

namespace Instant

def elapsed (t : Instant) : Int :=
  t.seconds * 1000000000 + t.nanoseconds.val

/-- An instant lies in a millisecond that started by then and ended after it. -/
structure InMillisecond (t : Instant) (m : Int) : Prop where
  started : m * 1000000 ≤ t.elapsed
  lasts : t.elapsed < (m + 1) * 1000000

theorem inMillisecond_iff (t : Instant) (m : Int) : t.InMillisecond m ↔ m = t.milliseconds := by
  have below := t.nanoseconds.isLt
  have elapsed : t.elapsed = t.seconds * 1000000000 + t.nanoseconds.val := rfl
  have milliseconds : t.milliseconds = t.seconds * 1000 + t.nanoseconds.val / 1000000 := rfl
  constructor
  · rintro ⟨started, lasts⟩
    omega
  · intro same
    exact ⟨by omega, by omega⟩

theorem toNat_timestamp (t : Instant) : t.timestamp.toNat = t.milliseconds.toNat := by
  have last : t.seconds ≤ 8210266876799 := t.inRange.2
  have below := t.nanoseconds.isLt
  have milliseconds : t.milliseconds = t.seconds * 1000 + t.nanoseconds.val / 1000000 := rfl
  exact UInt64.toNat_ofNat_of_lt' (by rw [UInt64.size]; omega)

theorem toNat_epoch (t : Instant) : t.epoch.toNat = t.seconds.toNat := by
  have last : t.seconds ≤ 8210266876799 := t.inRange.2
  exact UInt64.toNat_ofNat_of_lt' (by rw [UInt64.size]; omega)

/-- Before 1970 both are zero, even in a millisecond of the last second before it. -/
theorem epoch_eq_timestamp_div (t : Instant) : t.epoch.toNat = t.timestamp.toNat / 1000 := by
  have below := t.nanoseconds.isLt
  have milliseconds : t.milliseconds = t.seconds * 1000 + t.nanoseconds.val / 1000000 := rfl
  rw [toNat_epoch, toNat_timestamp]
  omega

end Instant

namespace BondRequest

def NamedIn (id : String) (m : Int) : Prop :=
  ∃ digits : List Char, digits.length = 8 ∧ (∀ c ∈ digits, c ∈ Hex.lowercase) ∧
    id = "bond_" ++ toString m ++ "_" ++ String.ofList digits

theorem namedIn_bondId (now : Instant) (suffix : UInt32) :
    NamedIn (bondId now suffix) now.milliseconds :=
  ⟨Hex.encodeChars (Words.toBigEndian suffix), Hex.length_encodeChars _,
    Hex.encodeChars_lowercase _, rfl⟩

theorem toNat_validUntil (request : BondRequest) (epoch : UInt64) :
    (request.validUntil epoch).toNat =
      min (epoch.toNat + request.policy.validity.toNat) 18446744073709551615 :=
  UInt64.toNat_ofNat_of_lt' (by rw [UInt64.size]; omega)

variable {request : BondRequest} {params : BindingParams} {now : Instant} {suffix : UInt32}

/-- The times of a bond follow from the millisecond in which it was made, and it is not expired at
its own epoch. -/
theorem created_times {creation : Creation}
    (made : request.create params now suffix = .ok creation) :
    ∃ m : Int, now.InMillisecond m ∧ NamedIn creation.bond.id m ∧
      creation.bond.timestamp.toNat = max m 0 ∧
      creation.bond.binding.epoch.toNat = creation.bond.timestamp.toNat / 1000 ∧
      creation.bond.metadata.validUntil.toNat =
        min (creation.bond.binding.epoch.toNat + request.policy.validity.toNat)
          18446744073709551615 ∧
      creation.bond.binding.epoch ≤ creation.bond.metadata.validUntil ∧
      creation.bond.isExpiredAt creation.bond.binding.epoch = false := by
  obtain rfl := bond_of_create made
  have expiry := toNat_validUntil request now.epoch
  have ordered : now.epoch.toNat ≤ (request.validUntil now.epoch).toNat := by
    have largest := now.epoch.toNat_lt
    omega
  refine ⟨now.milliseconds, (now.inMillisecond_iff _).2 rfl, namedIn_bondId now suffix, ?_,
    now.epoch_eq_timestamp_div, expiry, UInt64.le_iff_toNat_le.2 ordered, ?_⟩
  · exact (congrArg Int.ofNat now.toNat_timestamp).trans (Int.toNat_eq_max _)
  · rw [← Bool.not_eq_true, Bond.isExpiredAt_iff]
    exact Nat.not_lt.2 ordered

def lastingSample : BondRequest :=
  { sample with policy.validity := 18446744073709551615 }

theorem created_times_sample :
    ∃ creation now, lastingSample.create .v1 now 0 = .ok creation ∧
      now.InMillisecond (-500) ∧ NamedIn creation.bond.id (-500) ∧
      creation.bond.timestamp.toNat = 0 ∧ creation.bond.binding.epoch.toNat = 0 ∧
      creation.bond.metadata.validUntil.toNat = 18446744073709551615 ∧
      creation.bond.isExpiredAt creation.bond.binding.epoch = false := by
  let now : Instant := ⟨-1, ⟨500000000, by decide⟩, by decide⟩
  have made : lastingSample.create .v1 now 0 =
      .ok ⟨lastingSample.bond .v1 now 0, lastingSample.warnings⟩ := rfl
  obtain ⟨m, within, named, timestamp, epoch, expiry, -, valid⟩ := created_times made
  obtain rfl : m = -500 := ((now.inMillisecond_iff m).1 within).trans (by decide)
  have validity : lastingSample.policy.validity.toNat = 18446744073709551615 := by decide
  refine ⟨_, now, made, within, named, ?_, ?_, ?_, valid⟩
  · omega
  · omega
  · omega

end BondRequest

end HolderBond
