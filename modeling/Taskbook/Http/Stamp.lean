/-
  Points in time, given as seconds since the start of 1970, as dates and times of day.
-/
import Taskbook.Text.Basic

namespace Taskbook.Http

/-- Year, month and day of the day that many days after the first of March of the year 0. Years
    start in March, so that the leap day comes last. -/
def civilDate (days : Nat) : Nat × Nat × Nat :=
  let era := days / 146097
  let dayOfEra := days % 146097
  let yearOfEra := (dayOfEra - dayOfEra / 1460 + dayOfEra / 36524 - dayOfEra / 146096) / 365
  let dayOfYear := dayOfEra - (365 * yearOfEra + yearOfEra / 4 - yearOfEra / 100)
  let shifted := (5 * dayOfYear + 2) / 153
  let day := dayOfYear - (153 * shifted + 2) / 5 + 1
  let month := if shifted < 10 then shifted + 3 else shifted - 9
  (era * 400 + yearOfEra + (if month ≤ 2 then 1 else 0), month, day)

/-- A number with at least `width` digits. -/
def padded (width n : Nat) : Text :=
  let digits := Text.ofNat n
  List.replicate (width - digits.length) '0' ++ digits

/-- The days from the first of March of the year 0 to the start of 1970. -/
def daysBefore1970 : Nat := 719468

/-- Date and time of day with the letter T between them. -/
def stamp (seconds : Nat) : Text :=
  let (year, month, day) := civilDate (seconds / 86400 + daysBefore1970)
  let time := seconds % 86400
  padded 4 year ++ '-' :: padded 2 month ++ '-' :: padded 2 day ++ 'T' :: padded 2 (time / 3600) ++
    ':' :: padded 2 (time / 60 % 60) ++ ':' :: padded 2 (time % 60)

end Taskbook.Http
