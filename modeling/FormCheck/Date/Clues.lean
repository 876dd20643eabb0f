import FormCheck.Date.Week

/-!
# Clues to a date

Reading a text by a layout gathers clues: parts of dates and times with their values. Two clues to
the same part have to agree. `Clues.date?` is the date that the clues determine; every clue to the
date that is not needed for it has to agree with it.

* `get_add?`: a clue is kept as it was given and leaves the others alone.
-/

namespace FormCheck

/-- A part of a date or time to which there may be a clue. -/
inductive Clue where
  | year
  /-- All digits of the year but the last two. -/
  | century
  /-- The last two digits of the year. -/
  | yearOfCentury
  /-- The year to which the week belongs by its Thursday. -/
  | isoYear
  | isoYearOfCentury
  | quarter
  | month
  | weekFromSunday
  | weekFromMonday
  | isoWeek
  /-- The day of the week with Monday as `0`. -/
  | weekday
  | ordinal
  | day
  /-- The half of the day: `0` or `1`. -/
  | halfDay
  | hourOfHalf
  | minute
  | second
  | nanosecond
  | timestamp
  | offset
deriving DecidableEq

namespace Clue

/-- The least and the greatest value of a part. -/
def range : Clue → Int × Int
  | year | isoYear | offset => (-0x80000000, 0x7FFFFFFF)
  | century => (0, 0x7FFFFFFF)
  | yearOfCentury | isoYearOfCentury => (0, 99)
  | quarter => (1, 4)
  | month => (1, 12)
  | weekFromSunday | weekFromMonday => (0, 53)
  | isoWeek => (1, 53)
  | weekday => (0, 6)
  | ordinal => (1, 366)
  | day => (1, 31)
  | halfDay => (0, 1)
  | hourOfHalf => (0, 11)
  | minute => (0, 59)
  | second => (0, 60)
  | nanosecond => (0, 999999999)
  | timestamp => (-0x8000000000000000, 0x7FFFFFFFFFFFFFFF)

end Clue

/-- The clues gathered so far. -/
structure Clues where
  get : Clue → Option Int

namespace Clues

/-- No clue at all. -/
def empty : Clues := ⟨fun _ => none⟩

/-- The clues with one more, unless it is out of range or contradicts an earlier one. -/
def add? (cs : Clues) (part : Clue) (value : Int) : Option Clues :=
  if part.range.1 ≤ value ∧ value ≤ part.range.2 then
    match cs.get part with
    | some known => if known = value then some cs else none
    | none => some ⟨fun p => if p = part then some value else cs.get p⟩
  else none

/-- A clue is kept as it was given and leaves the others alone. -/
theorem get_add? {cs cs' : Clues} {part : Clue} {value : Int} (h : cs.add? part value = some cs')
    (p : Clue) : cs'.get p = if p = part then some value else cs.get p := by
  unfold add? at h
  split at h
  · split at h
    · rename_i known hk
      split at h
      · rename_i he
        cases h
        by_cases hp : p = part
        · simp [hp, hk, he]
        · simp [hp]
      · simp at h
    · cases h
      rfl
  · simp at h

/-- The years between which a date may lie. -/
def yearRange : Int × Int := (-262143, 262142)

/-- A date within the range of years. -/
def inRange (d : Date) : Option Date :=
  if yearRange.1 ≤ d.year ∧ d.year ≤ yearRange.2 then some d else none

/-- The year that is meant: `some none` when there is no clue to it, `none` when the clues
contradict one another or do not suffice. Two digits alone mean a year from 1970 to 2069, and a
negative year has no last two digits. -/
def meantYear (year century ofCentury : Option Int) : Option (Option Int) :=
  match year, century, ofCentury with
  | year, none, none => some year
  | some y, century, ofCentury =>
    if 0 ≤ y ∧ century.getD (y / 100) = y / 100 ∧ ofCentury.getD (y % 100) = y % 100 then
      some (some y)
    else none
  | none, some q, some r => some (some (q * 100 + r))
  | none, none, some r => some (some (if r < 70 then 2000 + r else 1900 + r))
  | none, some _, none => none

/-- Whether there is no clue to a part, or the clue has the given value. -/
def agrees (cs : Clues) (part : Clue) (value : Int) : Bool :=
  match cs.get part with
  | some known => known = value
  | none => true

/-- Whether there is no clue to digits of a year, or the year has such digits and they agree. -/
def agreesWithYear (cs : Clues) (part : Clue) (year : Int) (digits : Int) : Bool :=
  match cs.get part with
  | some known => 0 ≤ year && known = digits
  | none => true

/-- Whether the clues to year, month and day agree with a date. -/
def agreesByMonth (cs : Clues) (d : Date) : Bool :=
  cs.agrees .year d.year && cs.agreesWithYear .century d.year (d.year / 100) &&
    cs.agreesWithYear .yearOfCentury d.year (d.year % 100) && cs.agrees .month d.month &&
    cs.agrees .day d.day

/-- Whether the clues to the week by its Thursday and to the day of the week agree with a date. -/
def agreesByIsoWeek (cs : Clues) (d : Date) : Bool :=
  let (year, week) := d.isoWeek
  cs.agrees .isoYear year && cs.agreesWithYear .isoYearOfCentury year (year % 100) &&
    cs.agrees .isoWeek week && cs.agrees .weekday d.weekday.index

/-- Whether the clues to the place in the year and to the other weeks agree with a date. -/
def agreesByOrdinal (cs : Clues) (d : Date) : Bool :=
  cs.agrees .ordinal d.ordinal && cs.agrees .weekFromSunday (d.weekFrom .sunday) &&
    cs.agrees .weekFromMonday (d.weekFrom .monday) && cs.agrees .quarter d.quarter

/-- The date that clues to a year and to the day in it determine: month and day, or the place in
the year, or a week and the day of the week. -/
def dateInYear? (cs : Clues) (year : Int) : Option (Option Date) :=
  match cs.get .month, cs.get .day with
  | some month, some day => some (Date.ofYmd? year month.toNat day.toNat)
  | _, _ =>
    match cs.get .ordinal with
    | some ordinal => some (Date.ofOrdinal? year ordinal.toNat)
    | none =>
      match cs.get .weekday with
      | none => none
      | some weekday =>
        match cs.get .weekFromSunday, cs.get .weekFromMonday with
        | some week, _ =>
          some (Date.ofWeek? year week.toNat (Weekday.ofIndex weekday) .sunday)
        | none, some week =>
          some (Date.ofWeek? year week.toNat (Weekday.ofIndex weekday) .monday)
        | none, none => none

/-- The date that clues to a week by its Thursday determine. -/
def dateByIsoWeek? (cs : Clues) (isoYear : Option Int) : Option Date :=
  match isoYear, cs.get .isoWeek, cs.get .weekday with
  | some year, some week, some weekday =>
    Date.ofIsoWeek? year week.toNat (Weekday.ofIndex weekday)
  | _, _, _ => none

/-- The date that the clues determine and agree with. -/
def date? (cs : Clues) : Option Date :=
  match meantYear (cs.get .year) (cs.get .century) (cs.get .yearOfCentury),
    meantYear (cs.get .isoYear) none (cs.get .isoYearOfCentury) with
  | some year, some isoYear =>
    let found := match year.bind cs.dateInYear? with
      | some found => found
      | none => cs.dateByIsoWeek? isoYear
    (found.bind inRange).filter fun d =>
      cs.agreesByMonth d && cs.agreesByIsoWeek d && cs.agreesByOrdinal d
  | _, _ => none

end Clues

end FormCheck
