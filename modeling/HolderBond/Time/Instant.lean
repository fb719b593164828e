/-!
# Instants

Points of time at nanosecond precision, within the years that have a date.
-/

set_option autoImplicit false

namespace HolderBond

def firstSecond : Int := -8334601228800

def lastSecond : Int := 8210266876799

/-- Whole seconds since the start of 1970, and nanoseconds after them. -/
structure Instant where
  seconds : Int
  nanoseconds : Fin 1000000000
  inRange : firstSecond ≤ seconds ∧ seconds ≤ lastSecond

namespace Instant

/-- The instant at some seconds and nanoseconds, if it has a date. -/
def ofSeconds? (seconds : Int) (nanoseconds : Fin 1000000000) : Option Instant :=
  if h : firstSecond ≤ seconds ∧ seconds ≤ lastSecond then some ⟨seconds, nanoseconds, h⟩
  else none

def ofSecond? (second : Int) : Option Instant :=
  ofSeconds? second ⟨0, by decide⟩

def start : Instant :=
  ⟨0, ⟨0, by decide⟩, by decide⟩

def milliseconds (t : Instant) : Int :=
  t.seconds * 1000 + t.nanoseconds.val / 1000000

/-- The second as an epoch, those before 1970 counting as its start. -/
def epoch (t : Instant) : UInt64 :=
  UInt64.ofNat t.seconds.toNat

def timestamp (t : Instant) : UInt64 :=
  UInt64.ofNat t.milliseconds.toNat

end Instant

end HolderBond
