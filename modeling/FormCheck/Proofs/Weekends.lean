import FormCheck.DateRule

/-!
# Weekends, told from one Saturday

The day of the week of a date is told from its number, and the number from its year, its month and
its day. Here days are counted one by one instead: `Date.after` steps from a date to the next one, and
`Date.DaysTo` says how many steps lie between two dates, in one direction or the other. A step knows
the lengths of the months and of the years, and nothing of numbers and of weeks.

The days are those for which `is_weekend` answers.

* `Date.dayNumber_lt_iff`, `Date.next_le_iff`: the numbers follow the order of the dates, and between a
  date and the next one there is no other.
* `Date.daysTo_iff`: the number of days from one date to another is the difference of their numbers,
  so there is always one such number.
* `Date.countP_isWeekend`: of seven consecutive dates two are on a weekend.
* **`Date.weekends_anchored`**: the weekends, counted from the seventh of June 2025.
-/

namespace FormCheck

namespace Date

/-! ## The order of the numbers -/

/-- A month begins when all days of the months before it are over. -/
theorem daysBeforeMonth_add_le (year : Int) {month later : Nat} (h : 1 ≤ month)
    (hlater : month < later) (hend : later ≤ 12) :
    daysBeforeMonth year month + daysInMonth year month ≤ daysBeforeMonth year later := by
  induction later with
  | zero => omega
  | succ m ih =>
    by_cases hm : month = m
    · subst hm
      exact Nat.le_of_eq (daysBeforeMonth_succ year h (by omega)).symm
    · have hprevious := ih (by omega) (by omega)
      rw [daysBeforeMonth_succ year (by omega) (by omega)]
      omega

theorem ordinal_le (d : Date) : d.ordinal ≤ daysInYear d.year := by
  have hday := d.day_range.2
  rw [ordinal, daysInYear_eq]
  by_cases hmonth : d.month = 12
  · rw [hmonth] at hday ⊢
    omega
  · have hlast := daysBeforeMonth_add_le d.year d.month_range.1
      (Nat.lt_of_le_of_ne d.month_range.2 hmonth) (Nat.le_refl 12)
    omega

theorem daysBeforeYear_add_le {year later : Int} (h : year < later) :
    daysBeforeYear year + daysInYear year ≤ daysBeforeYear later := by
  rw [← daysBeforeYear_succ]
  simp only [daysBeforeYear]
  omega

variable {a b d e : Date}

theorem dayNumber_lt (h : a < b) : a.dayNumber < b.dayNumber := by
  have hday := a.day_range.2
  have hday' := b.day_range.1
  have hordinal := a.ordinal_le
  rw [lt_def] at h
  simp only [dayNumber, ordinal] at hordinal ⊢
  obtain hyear | ⟨hyear, hmonth | ⟨hmonth, hless⟩⟩ := h
  · have hyears := daysBeforeYear_add_le hyear
    omega
  · have hmonths := daysBeforeMonth_add_le a.year a.month_range.1 hmonth b.month_range.2
    rw [← hyear]
    omega
  · rw [← hyear, ← hmonth]
    omega

/-- **The numbers follow the order of the dates.** -/
theorem dayNumber_lt_iff : a.dayNumber < b.dayNumber ↔ a < b := by
  refine ⟨fun h => ?_, dayNumber_lt⟩
  by_cases hlt : a < b
  · exact hlt
  by_cases hgt : b < a
  · exact absurd (dayNumber_lt hgt) (by omega)
  · rw [Date.le_antisymm (not_lt.1 hgt) (not_lt.1 hlt)] at h
    exact absurd h (by omega)

theorem dayNumber_le_iff : a.dayNumber ≤ b.dayNumber ↔ a ≤ b := by
  rw [← not_lt, ← dayNumber_lt_iff, Int.not_lt]

theorem dayNumber_injective (h : a.dayNumber = b.dayNumber) : a = b :=
  Date.le_antisymm (dayNumber_le_iff.1 (by omega)) (dayNumber_le_iff.1 (by omega))

/-- **Between a date and the next one there is no other.** -/
theorem next_le_iff : d.next ≤ e ↔ d < e := by
  rw [← dayNumber_le_iff, ← dayNumber_lt_iff, dayNumber_next]
  omega

/-! ## Counting days -/

/-- The date that is reached from a date by stepping to the next one so many times. -/
def after (d : Date) : Nat → Date
  | 0 => d
  | n + 1 => (d.after n).next

theorem dayNumber_after (d : Date) (n : Nat) : (d.after n).dayNumber = d.dayNumber + n := by
  induction n with
  | zero => simp [after]
  | succ n ih =>
    rw [after, dayNumber_next, ih]
    omega

/-- **How many days it is from one date to another**: so many steps from the first date to the second
one, or, with a minus, from the second to the first. -/
inductive DaysTo (a b : Date) : Int → Prop
  | forward (n : Nat) (h : a.after n = b) : DaysTo a b n
  | back (n : Nat) (h : b.after n = a) : DaysTo a b (-n)

/-- **The number of days is the difference of the numbers.** Every date is reached, since numbers tell
dates apart. -/
theorem daysTo_iff {n : Int} : a.DaysTo b n ↔ n = b.dayNumber - a.dayNumber := by
  constructor
  · rintro (⟨n, h⟩ | ⟨n, h⟩)
    · have hnumber := dayNumber_after a n
      rw [h] at hnumber
      omega
    · have hnumber := dayNumber_after b n
      rw [h] at hnumber
      omega
  · rintro rfl
    by_cases hle : a.dayNumber ≤ b.dayNumber
    · have hsteps : a.after (b.dayNumber - a.dayNumber).toNat = b :=
        dayNumber_injective (by rw [dayNumber_after]; omega)
      rw [← Int.toNat_of_nonneg (Int.sub_nonneg.2 hle)]
      exact .forward _ hsteps
    · have hsteps : b.after (a.dayNumber - b.dayNumber).toNat = a :=
        dayNumber_injective (by rw [dayNumber_after]; omega)
      rw [← Int.neg_sub, ← Int.toNat_of_nonneg (show 0 ≤ a.dayNumber - b.dayNumber by omega)]
      exact .back _ hsteps

/-! ## Weeks -/

theorem emod_seven_cases (n : Int) : n % 7 = 0 ∨ n % 7 = 1 ∨ n % 7 = 2 ∨ n % 7 = 3 ∨ n % 7 = 4 ∨
    n % 7 = 5 ∨ n % 7 = 6 := by
  omega

/-- The numbers of the days of weekends: the first day of year 1 is a Monday and has number 0. -/
theorem isWeekend_iff : d.isWeekend = true ↔ d.dayNumber % 7 = 5 ∨ d.dayNumber % 7 = 6 := by
  rw [isWeekend, weekday, Weekday.ofIndex]
  obtain h | h | h | h | h | h | h := emod_seven_cases d.dayNumber <;> rw [h] <;> decide

/-- The seventh of June 2025, a Saturday. -/
def knownSaturday : Date := ⟨2025, 6, 7, by decide, by decide⟩

/-- Saturdays are whole weeks away from the known one, and Sundays a day more. -/
theorem isWeekend_iff_of_daysTo {n : Int} (h : knownSaturday.DaysTo d n) :
    d.isWeekend = true ↔ n % 7 = 0 ∨ n % 7 = 1 := by
  have hnumber : knownSaturday.dayNumber % 7 = 5 := by decide
  rw [daysTo_iff] at h
  rw [isWeekend_iff]
  omega

/-- The seven dates from a date on. -/
def week (d : Date) : List Date := (List.range 7).map d.after

/-- **Of seven consecutive dates two are on a weekend**, whatever day of the week is the first. -/
theorem countP_isWeekend (d : Date) : d.week.countP isWeekend = 2 := by
  have hday : ∀ i : Nat, (d.after i).isWeekend =
      (Weekday.ofIndex (d.dayNumber % 7 + i)).isWeekend := by
    intro i
    rw [isWeekend, weekday, dayNumber_after, Weekday.ofIndex, Weekday.ofIndex, Int.emod_add_emod]
  rw [week, List.countP_map]
  simp only [Function.comp_def, hday]
  obtain h | h | h | h | h | h | h := emod_seven_cases d.dayNumber <;> rw [h] <;> decide

/-- At most five of them are working days, whatever days are holidays. -/
theorem countP_workingDay_le (isHoliday : Date → Bool) (d : Date) :
    d.week.countP (fun e => !e.isWeekend && !isHoliday e) ≤ 5 := by
  have hlength : d.week.length = 7 := by simp [week]
  have hsplit := List.length_eq_countP_add_countP isWeekend (l := d.week)
  have hweekend := countP_isWeekend d
  have hworking : d.week.countP (fun e => !e.isWeekend && !isHoliday e) ≤
      d.week.countP fun e => decide ¬ e.isWeekend = true :=
    List.countP_mono_left fun e _ he => by
      rw [Bool.and_eq_true, Bool.not_eq_true'] at he
      simp [he.1]
  omega

/-- **Weekends are anchored and come every seven days.** Every date is some number of days away from
the seventh of June 2025, a Saturday, and the date is on a weekend exactly if this number is whole
weeks, or whole weeks and one day. So of the seven dates from a date on exactly two are on a weekend,
and at most five are working days: in every calendar, and whatever days are taken for holidays.
Consecutive dates are those between which there is no other. -/
theorem weekends_anchored (d : Date) :
    (∃ n, knownSaturday.DaysTo d n ∧ (∀ m, knownSaturday.DaysTo d m → m = n) ∧
      (d.isWeekend = true ↔ n % 7 = 0 ∨ n % 7 = 1)) ∧
    d.week.countP isWeekend = 2 ∧
    (∀ c : Calendar, d.week.countP (DateRule.workingDays c).allows ≤ 5) ∧
    (∀ isHoliday : Date → Bool, d.week.countP (fun e => !e.isWeekend && !isHoliday e) ≤ 5) ∧
    ∀ e, d.next ≤ e ↔ d < e := by
  have hdays : knownSaturday.DaysTo d (d.dayNumber - knownSaturday.dayNumber) := daysTo_iff.2 rfl
  exact ⟨⟨_, hdays, fun m hm => daysTo_iff.1 hm, isWeekend_iff_of_daysTo hdays⟩,
    countP_isWeekend d, fun c => countP_workingDay_le c.isHoliday d,
    fun isHoliday => countP_workingDay_le isHoliday d, fun e => next_le_iff⟩

end Date

namespace Sample

/-- The fourth day before the year zero. -/
def beforeYearZero : Date := ⟨-1, 12, 28, by decide, by decide⟩

end Sample

open Sample in
/-- The seven days from the twenty-eighth of December of the year before the year zero on: the new year
is the Saturday among them, and with it as a holiday there are five working days. -/
theorem weekends_anchored_yearZero :
    Date.knownSaturday.DaysTo beforeYearZero (-739778) ∧ beforeYearZero.isWeekend = false ∧
    beforeYearZero.after 4 = Date.newYear 0 ∧ (Date.newYear 0).isWeekend = true ∧
    beforeYearZero.week.countP Date.isWeekend = 2 ∧
    beforeYearZero.week.countP
      (DateRule.workingDays (.ofDates "new year" [Date.newYear 0])).allows = 5 ∧
    beforeYearZero < Date.newYear 0 ∧ beforeYearZero.next ≤ Date.newYear 0 := by
  obtain ⟨⟨n, hn, hunique, hweekend⟩, htwo, hfive, -, hnext⟩ := Date.weekends_anchored beforeYearZero
  have hdays : Date.knownSaturday.DaysTo beforeYearZero (-739778) := Date.daysTo_iff.2 (by decide)
  rw [← hunique _ hdays] at hweekend
  have hbefore : beforeYearZero < Date.newYear 0 := by decide
  refine ⟨hdays, ?_, by decide, by decide, htwo, ?_, hbefore, (hnext _).2 hbefore⟩
  · rw [Bool.eq_false_iff, ne_eq, hweekend]
    decide
  · exact Nat.le_antisymm (hfive _) (by decide)

end FormCheck
