import FormCheck.Date

/-!
# Weeks

Weeks are numbered in three ways: from the first Sunday or from the first Monday of a year, with the
days before it in week zero; and by the rule that a week belongs to the year that holds its
Thursday. Each way tells a date from a year, a week and a day of the week.
-/

namespace FormCheck.Date

/-- The number of the week of a date when weeks begin on `start` and the first such day of the year
begins week one. -/
def weekFrom (d : Date) (start : Weekday) : Nat := (d.ordinal + 6 - d.weekday.since start) / 7

/-- The date with the given week and day of the week of a year, weeks counted as by `weekFrom`. -/
def ofWeek? (year : Int) (week : Nat) (day start : Weekday) : Option Date :=
  let firstStart : Int := 1 + (start.since (newYear year).weekday : Nat)
  let ordinal : Int := firstStart + ((week : Int) - 1) * 7 + (day.since start : Nat)
  if 0 < ordinal then ofOrdinal? year ordinal.toNat else none

/-- The number of weeks whose Thursday lies in a year. -/
def isoWeeks (year : Int) : Nat :=
  let first := (newYear year).weekday
  if first = .thursday || (first = .wednesday && isLeap year) then 53 else 52

/-- The place in its year of the Monday of the first week whose Thursday lies in the year; it may
be as low as `-2`. -/
def firstMonday (year : Int) : Int := 1 - ((Weekday.index (newYear year).weekday + 3) % 7 : Nat) + 3

/-- The year and the number of the week of a date, by the Thursday of the week. -/
def isoWeek (d : Date) : Int × Nat :=
  let week : Int := ((d.ordinal : Int) - firstMonday d.year) / 7 + 1
  if week < 1 then (d.year - 1, isoWeeks (d.year - 1))
  else if (isoWeeks d.year : Int) < week then (d.year + 1, 1)
  else (d.year, week.toNat)

/-- The date with the given day of a week that belongs to a year by its Thursday. -/
def ofIsoWeek? (year : Int) (week : Nat) (day : Weekday) : Option Date :=
  if 1 ≤ week ∧ week ≤ isoWeeks year then
    let ordinal : Int := firstMonday year + ((week : Int) - 1) * 7 + (day.index : Nat)
    if ordinal < 1 then ofOrdinal? (year - 1) (ordinal + daysInYear (year - 1)).toNat
    else if (daysInYear year : Int) < ordinal then
      ofOrdinal? (year + 1) (ordinal - daysInYear year).toNat
    else ofOrdinal? year ordinal.toNat
  else none

end FormCheck.Date
