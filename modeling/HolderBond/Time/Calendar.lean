import HolderBond.Time.Instant

/-!
# Dates

The calendar date and the time of day of an instant, in universal time.  Years begin in
March while they are counted, so that a leap day comes last.
-/

set_option autoImplicit false

namespace HolderBond

structure Date where
  year : Int
  month : Nat
  day : Nat
  deriving DecidableEq, Repr

namespace Date

def daysInEra : Int := 146097

/-- The number of the first of March of the year 0, counted back from the start of 1970. -/
def daysBefore1970 : Int := 719468

def ofDays (days : Int) : Date :=
  let shifted := days + daysBefore1970
  let era := shifted / daysInEra
  let dayOfEra := (shifted % daysInEra).toNat
  let yearOfEra := (dayOfEra - dayOfEra / 1460 + dayOfEra / 36524 - dayOfEra / 146096) / 365
  let dayOfYear := dayOfEra - (365 * yearOfEra + yearOfEra / 4 - yearOfEra / 100)
  let monthFromMarch := (5 * dayOfYear + 2) / 153
  let day := dayOfYear - (153 * monthFromMarch + 2) / 5 + 1
  let month := if monthFromMarch < 10 then monthFromMarch + 3 else monthFromMarch - 9
  let year := era * 400 + yearOfEra + (if month ≤ 2 then 1 else 0)
  ⟨year, month, day⟩

def padded (width n : Nat) : String :=
  let digits := toString n
  String.ofList (List.replicate (width - digits.length) '0') ++ digits

/-- A year: four digits, or a sign and at least five characters in all. -/
def yearText (year : Int) : String :=
  if 0 ≤ year && year ≤ 9999 then padded 4 year.toNat
  else (if year < 0 then "-" else "+") ++ padded 4 year.natAbs

def text (date : Date) : String :=
  yearText date.year ++ "-" ++ padded 2 date.month ++ "-" ++ padded 2 date.day

end Date

namespace Instant

def date (t : Instant) : Date :=
  Date.ofDays (t.seconds / 86400)

def text (t : Instant) : String :=
  let second := (t.seconds % 86400).toNat
  t.date.text ++ "T" ++ Date.padded 2 (second / 3600) ++ ":" ++
    Date.padded 2 (second / 60 % 60) ++ ":" ++ Date.padded 2 (second % 60) ++ "+00:00"

end Instant

end HolderBond
