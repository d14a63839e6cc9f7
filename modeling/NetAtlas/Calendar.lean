import NetAtlas.Decimal.Layout

/-!
Dates and times of the Gregorian calendar in universal time.
-/

namespace NetAtlas.Calendar

structure Date where
  year : Int
  month : Nat
  day : Nat
deriving DecidableEq, Repr

/-- The date so many days after 1970-01-01. Years are counted from March on here, so that a leap day
is the last of its year; four hundred years have 146097 days. -/
def dateOf (days : Int) : Date :=
  let shifted := days + 719468
  let era := shifted.fdiv 146097
  let dayOfEra := (shifted - era * 146097).toNat
  let yearOfEra := (dayOfEra - dayOfEra / 1460 + dayOfEra / 36524 - dayOfEra / 146096) / 365
  let dayOfYear := dayOfEra - (365 * yearOfEra + yearOfEra / 4 - yearOfEra / 100)
  let monthFromMarch := (5 * dayOfYear + 2) / 153
  let day := dayOfYear - (153 * monthFromMarch + 2) / 5 + 1
  let month := if monthFromMarch < 10 then monthFromMarch + 3 else monthFromMarch - 9
  let year := era * 400 + yearOfEra
  ⟨if month ≤ 2 then year + 1 else year, month, day⟩

example : dateOf 0 = ⟨1970, 1, 1⟩ := by decide

example : dateOf 10957 = ⟨2000, 1, 1⟩ := by decide

example : dateOf 11016 = ⟨2000, 2, 29⟩ := by decide

def digits (width n : Nat) : String := String.ofList (Decimal.padLeft width (Decimal.digits n))

/-- Hours, minutes and seconds of a time in seconds. -/
def clockText (seconds : Int) : String :=
  let s := (seconds.emod 86400).toNat
  ":".intercalate ([s / 3600, s / 60 % 60, s % 60].map (digits 2))

/-- Date and clock of a time in seconds since the start of 1970. -/
def timeText (seconds : Int) : String :=
  let d := dateOf (seconds.fdiv 86400)
  "-".intercalate [digits 4 d.year.toNat, digits 2 d.month, digits 2 d.day] ++ "T"
    ++ clockText seconds ++ "+00:00"

end NetAtlas.Calendar
