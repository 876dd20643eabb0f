/-!
# Civil dates

A `Date` is a day of the proleptic Gregorian calendar, with years of any sign. Dates are ordered by
year, month and day, and are counted by `Date.dayNumber`, from which the days of the week follow.

* `Date.le_refl`, `Date.le_trans`, `Date.le_total`, `Date.le_antisymm`: the order is linear.
* `Date.dayNumber_next`: the day after a date has the next number.
-/

namespace FormCheck

/-- Whether a year has a leap day: every fourth year, of the hundreds only every fourth. -/
def isLeap (year : Int) : Bool := year % 4 = 0 && (year % 100 ≠ 0 || year % 400 = 0)

/-- The number of days of a year. -/
def daysInYear (year : Int) : Nat := if isLeap year then 366 else 365

/-- The number of days of a month. -/
def daysInMonth (year : Int) : Nat → Nat
  | 2 => if isLeap year then 29 else 28
  | 4 | 6 | 9 | 11 => 30
  | _ => 31

/-- The number of days of a year before a month. -/
def daysBeforeMonth (year : Int) (month : Nat) : Nat :=
  let leapDay := if isLeap year then 1 else 0
  match month with
  | 0 | 1 => 0
  | 2 => 31
  | 3 => 59 + leapDay
  | 4 => 90 + leapDay
  | 5 => 120 + leapDay
  | 6 => 151 + leapDay
  | 7 => 181 + leapDay
  | 8 => 212 + leapDay
  | 9 => 243 + leapDay
  | 10 => 273 + leapDay
  | 11 => 304 + leapDay
  | _ => 334 + leapDay

theorem daysInMonth_le (year : Int) (month : Nat) : daysInMonth year month ≤ 31 := by
  unfold daysInMonth
  split
  · split <;> decide
  all_goals decide

theorem one_le_daysInMonth (year : Int) (month : Nat) : 1 ≤ daysInMonth year month := by
  unfold daysInMonth
  split
  · split <;> decide
  all_goals decide

/-- The number of days from the first day of year 1 to the first day of a year. -/
def daysBeforeYear (year : Int) : Int :=
  let y := year - 1
  365 * y + y / 4 - y / 100 + y / 400

/-- The days of the week. -/
inductive Weekday where
  | monday | tuesday | wednesday | thursday | friday | saturday | sunday
deriving DecidableEq, Inhabited

namespace Weekday

/-- The days of the week from Monday on. -/
def all : List Weekday := [monday, tuesday, wednesday, thursday, friday, saturday, sunday]

/-- The number of days since Monday. -/
def index : Weekday → Nat
  | monday => 0
  | tuesday => 1
  | wednesday => 2
  | thursday => 3
  | friday => 4
  | saturday => 5
  | sunday => 6

/-- The day of the week that is so many days after a Monday. -/
def ofIndex (n : Int) : Weekday :=
  match n % 7 with
  | 0 => monday
  | 1 => tuesday
  | 2 => wednesday
  | 3 => thursday
  | 4 => friday
  | 5 => saturday
  | _ => sunday

/-- The number of days since the last `start`, the day itself included. -/
def since (w start : Weekday) : Nat := (w.index + 7 - start.index) % 7

/-- Saturday and Sunday. -/
def isWeekend (w : Weekday) : Bool := w = saturday || w = sunday

end Weekday

/-- A day of the proleptic Gregorian calendar. -/
structure Date where
  year : Int
  month : Nat
  day : Nat
  month_range : 1 ≤ month ∧ month ≤ 12
  day_range : 1 ≤ day ∧ day ≤ daysInMonth year month
deriving DecidableEq

namespace Date

/-- The first day of a year. -/
def newYear (year : Int) : Date := ⟨year, 1, 1, by decide, by decide, one_le_daysInMonth _ _⟩

instance : Inhabited Date := ⟨newYear 1⟩

/-- The date with the given parts, if there is such a day. -/
def ofYmd? (year : Int) (month day : Nat) : Option Date :=
  if h : (1 ≤ month ∧ month ≤ 12) ∧ (1 ≤ day ∧ day ≤ daysInMonth year month) then
    some ⟨year, month, day, h.1, h.2⟩
  else none

/-- The parts tell the date. -/
theorem ofYmd?_eq_some_iff {year : Int} {month day : Nat} {d : Date} :
    ofYmd? year month day = some d ↔ d.year = year ∧ d.month = month ∧ d.day = day := by
  unfold ofYmd?
  constructor
  · intro h
    split at h
    · cases h
      exact ⟨rfl, rfl, rfl⟩
    · cases h
  · rintro ⟨rfl, rfl, rfl⟩
    exact dif_pos ⟨d.month_range, d.day_range⟩

theorem day_le (d : Date) : d.day ≤ 31 := Nat.le_trans d.day_range.2 (daysInMonth_le d.year d.month)

/-- The place of the date in its year, from 1 on. -/
def ordinal (d : Date) : Nat := daysBeforeMonth d.year d.month + d.day

/-- The number of days from the first day of year 1 to the date. -/
def dayNumber (d : Date) : Int := daysBeforeYear d.year + d.ordinal - 1

/-- The day of the week. The first day of year 1 is a Monday. -/
def weekday (d : Date) : Weekday := Weekday.ofIndex d.dayNumber

/-- Whether the date is a Saturday or a Sunday. -/
def isWeekend (d : Date) : Bool := d.weekday.isWeekend

/-- The quarter of the year. -/
def quarter (d : Date) : Nat := (d.month + 2) / 3

/-- The date at a place of a year, from 1 on: the month is the last one that begins before it. -/
def ofOrdinal? (year : Int) (ordinal : Nat) : Option Date :=
  let month := ((List.range 12).map (· + 1)).filter (fun m => daysBeforeMonth year m < ordinal)
    |>.getLast?
  month.bind fun m => ofYmd? year m (ordinal - daysBeforeMonth year m)

/-! ## The order of dates -/

/-- The earlier date has the smaller year, or the same year and the smaller month, or both the same
and the smaller day. -/
def before (a b : Date) : Prop :=
  a.year < b.year ∨ (a.year = b.year ∧ (a.month < b.month ∨ (a.month = b.month ∧ a.day < b.day)))

instance (a b : Date) : Decidable (before a b) := by unfold before; infer_instance

instance : LT Date := ⟨before⟩

instance : LE Date := ⟨fun a b => ¬before b a⟩

instance (a b : Date) : Decidable (a < b) := inferInstanceAs (Decidable (before a b))

instance (a b : Date) : Decidable (a ≤ b) := inferInstanceAs (Decidable (¬before b a))

theorem lt_def {a b : Date} : a < b ↔
    a.year < b.year ∨ (a.year = b.year ∧ (a.month < b.month ∨ (a.month = b.month ∧ a.day < b.day))) :=
  Iff.rfl

theorem not_lt {a b : Date} : ¬a < b ↔ b ≤ a := Iff.rfl

theorem le_def {a b : Date} : a ≤ b ↔
    a.year < b.year ∨ (a.year = b.year ∧ (a.month < b.month ∨ (a.month = b.month ∧ a.day ≤ b.day))) := by
  rw [← not_lt, lt_def]
  omega

protected theorem le_refl (a : Date) : a ≤ a := by
  rw [le_def]
  omega

protected theorem le_trans {a b c : Date} (h : a ≤ b) (h' : b ≤ c) : a ≤ c := by
  rw [le_def] at *
  omega

protected theorem lt_of_lt_of_le {a b c : Date} (h : a < b) (h' : b ≤ c) : a < c := by
  rw [lt_def, le_def] at *
  omega

protected theorem le_total (a b : Date) : a ≤ b ∨ b ≤ a := by
  rw [le_def, le_def]
  omega

protected theorem le_antisymm {a b : Date} (h : a ≤ b) (h' : b ≤ a) : a = b := by
  rw [le_def] at *
  have hy : a.year = b.year := by omega
  have hm : a.month = b.month := by omega
  have hd : a.day = b.day := by omega
  obtain ⟨year, month, day, _, _⟩ := a
  obtain ⟨year', month', day', _, _⟩ := b
  simp only at hy hm hd
  subst hy
  subst hm
  subst hd
  rfl

/-! ## Counting days -/

/-- The day after a date. -/
def next (d : Date) : Date :=
  if h : d.day < daysInMonth d.year d.month then
    { d with day := d.day + 1, day_range := ⟨by omega, h⟩ }
  else if h : d.month < 12 then
    ⟨d.year, d.month + 1, 1, ⟨by omega, h⟩, ⟨by decide, one_le_daysInMonth _ _⟩⟩
  else newYear (d.year + 1)

theorem daysBeforeMonth_succ (year : Int) {month : Nat} (h : 1 ≤ month) (h' : month < 12) :
    daysBeforeMonth year (month + 1) = daysBeforeMonth year month + daysInMonth year month := by
  have : month = 1 ∨ month = 2 ∨ month = 3 ∨ month = 4 ∨ month = 5 ∨ month = 6 ∨ month = 7 ∨
      month = 8 ∨ month = 9 ∨ month = 10 ∨ month = 11 := by omega
  rcases this with h | h | h | h | h | h | h | h | h | h | h <;> subst h <;>
    cases hl : isLeap year <;> simp [daysBeforeMonth, daysInMonth, hl]

theorem daysBeforeYear_succ (year : Int) :
    daysBeforeYear (year + 1) = daysBeforeYear year + daysInYear year := by
  unfold daysBeforeYear daysInYear isLeap
  simp only [Bool.and_eq_true, Bool.or_eq_true, decide_eq_true_eq]
  split <;> omega

theorem daysInYear_eq (year : Int) :
    daysInYear year = daysBeforeMonth year 12 + daysInMonth year 12 := by
  cases hl : isLeap year <;> simp [daysInYear, daysBeforeMonth, daysInMonth, hl]

theorem dayNumber_next (d : Date) : d.next.dayNumber = d.dayNumber + 1 := by
  unfold next
  split
  · simp only [dayNumber, ordinal]
    omega
  · rename_i hday
    have hd : d.day = daysInMonth d.year d.month := Nat.le_antisymm d.day_range.2 (by omega)
    split
    · rename_i hmonth
      have hs := daysBeforeMonth_succ d.year d.month_range.1 hmonth
      simp only [dayNumber, ordinal]
      rw [hs, hd]
      omega
    · rename_i hmonth
      have hm : d.month = 12 := Nat.le_antisymm d.month_range.2 (by omega)
      rw [hm] at hd
      have hs := daysBeforeYear_succ d.year
      simp only [dayNumber, ordinal, newYear]
      rw [hs, hm, hd, daysInYear_eq]
      simp only [daysBeforeMonth]
      omega

end Date

end FormCheck
