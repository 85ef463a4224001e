namespace FeatureGates

/-!
# The time of a report

A moment is a number of seconds since the start of 1970. It is written as date and time of day in
universal time.
-/

structure Moment where
  seconds : Int
deriving DecidableEq

namespace Moment

def secondsPerDay : Int := 86400

structure Date where
  year : Int
  month : Int
  day : Int
deriving DecidableEq

/-- The date of a day counted from the start of 1970. Years are counted from March, so that a leap
day ends its year, and in periods of 400 years. -/
def dateOfDay (days : Int) : Date :=
  let fromMarch := days + 719468
  let period := fromMarch.fdiv 146097
  let inPeriod := fromMarch.fmod 146097
  let year := (inPeriod - inPeriod / 1460 + inPeriod / 36524 - inPeriod / 146096) / 365
  let inYear := inPeriod - (365 * year + year / 4 - year / 100)
  let month := (5 * inYear + 2) / 153
  let day := inYear - (153 * month + 2) / 5 + 1
  if month < 10 then ⟨400 * period + year, month + 3, day⟩
  else ⟨400 * period + year + 1, month - 9, day⟩

/-- At least so many digits, with zeros in front. -/
def padded (width : Nat) (n : Int) : String :=
  let digits := toString n.toNat
  String.ofList (List.replicate (width - digits.length) '0') ++ digits

def text (m : Moment) : String :=
  let date := dateOfDay (m.seconds.fdiv secondsPerDay)
  let time := m.seconds.fmod secondsPerDay
  padded 4 date.year ++ "-" ++ padded 2 date.month ++ "-" ++ padded 2 date.day ++ "T" ++
    padded 2 (time / 3600) ++ ":" ++ padded 2 (time / 60 % 60) ++ ":" ++ padded 2 (time % 60) ++ "Z"

end Moment

end FeatureGates
