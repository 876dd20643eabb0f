import FormCheck.DateRule
import Mathlib.Data.List.Destutter

/-!
# A table of holidays is the set of its dates

A table is made of dates in any order, and a date may be listed again and again. What the table
enumerates, what it answers for a single date, and which years it covers are three views of one set.

The views are `holidays`, `is_holiday` and `covered_years` of the calendar that `from_dates` makes.

* `Calendar.mem_holidays_ofDates`, `Calendar.isHoliday_ofDates`: the dates that are enumerated, and
  those that are told to be holidays, are those listed.
* `Calendar.years_eq_dedup`: the holidays ascend, so holidays of one year stand together, and the years
  are enumerated in ascending order, each once.
* **`Calendar.ofDates_is_set`**: the three views together, and when two tables are the same.
-/

namespace FormCheck.Calendar

variable {c : Calendar} {name : String} {dates : List Date} {d : Date} {y : Int}

/-! ## Years -/

/-- Repetitions of the item at hand are passed over, behind the items that are already kept. -/
theorem eraseReps_loop_eq (a : Int) (as kept : List Int) :
    List.eraseRepsBy.loop (fun x y => x == y) a as kept =
      kept.reverse ++ as.destutter' (fun x y => x ≠ y) a := by
  induction as generalizing a kept with
  | nil => simp [List.eraseRepsBy.loop]
  | cons b rest ih =>
    rw [List.eraseRepsBy.loop]
    by_cases h : a = b
    · subst h
      rw [beq_self_eq_true, List.destutter'_cons_neg _ (not_not.2 rfl)]
      exact ih a kept
    · rw [beq_eq_false_iff_ne.2 h, List.destutter'_cons_pos _ h]
      simpa using ih b (a :: kept)

/-- In an ascending list equal items stand together, so no item is left twice. -/
theorem eraseReps_eq_dedup {as : List Int} (h : as.Pairwise (· ≤ ·)) : as.eraseReps = as.dedup := by
  rw [← h.destutter_eq_dedup]
  cases as with
  | nil => rfl
  | cons a rest => exact eraseReps_loop_eq a rest []

theorem ascending_map_year (c : Calendar) : (c.holidays.map Date.year).Pairwise (· ≤ ·) := by
  refine List.pairwise_map.2 (c.ascending.imp fun {a b} h => ?_)
  rw [Date.lt_def] at h
  omega

/-- The years of a calendar are the years of its holidays, each once. -/
theorem years_eq_dedup (c : Calendar) : c.years = (c.holidays.map Date.year).dedup :=
  eraseReps_eq_dedup c.ascending_map_year

/-- A calendar covers the years of its holidays, and no others. -/
theorem mem_years : y ∈ c.years ↔ ∃ d ∈ c.holidays, d.year = y := by
  rw [years_eq_dedup, List.mem_dedup, List.mem_map]

theorem ascending_years (c : Calendar) : c.years.Pairwise (· < ·) := by
  rw [years_eq_dedup]
  have hascending := c.ascending_map_year.sublist (List.dedup_sublist _)
  exact (hascending.and (List.nodup_dedup _)).imp fun h => Int.lt_iff_le_and_ne.2 h

/-! ## Dates -/

theorem mem_holidays_ofDates : d ∈ (ofDates name dates).holidays ↔ d ∈ dates := mem_arrange

theorem mem_years_ofDates : y ∈ (ofDates name dates).years ↔ ∃ d ∈ dates, d.year = y := by
  simp only [mem_years, mem_holidays_ofDates]

/-- The working days of a table are the dates that are neither on a weekend nor listed. -/
theorem allows_workingDays_ofDates_iff :
    (DateRule.workingDays (ofDates name dates)).allows d = true ↔
      d.isWeekend = false ∧ d ∉ dates := by
  show (ofDates name dates).isWorkingDay d = true ↔ _
  rw [isWorkingDay, Bool.and_eq_true, Bool.not_eq_true', Bool.not_eq_true', Bool.eq_false_iff,
    Bool.eq_false_iff, ne_eq ((ofDates name dates).isHoliday d), isHoliday_ofDates]

theorem ofDates_eq_iff {dates' : List Date} :
    ofDates name dates = ofDates name dates' ↔ ∀ d, d ∈ dates ↔ d ∈ dates' := by
  refine ⟨fun h d => ?_, ofDates_congr name⟩
  have hlisted : d ∈ (ofDates name dates).holidays ↔ d ∈ dates := mem_holidays_ofDates
  rw [← hlisted, h, mem_holidays_ofDates]

/-- **A table of holidays is the set of its dates.** The holidays of a table ascend, and they are the
dates that it is made of; so are the dates that it tells to be holidays. The years that it covers
ascend, and they are the years of these dates; a date of another year is no holiday. The working days
are the dates that are neither on a weekend nor among them. Order and repetitions play no part: two
tables of one name are equal exactly if they are made of the same dates, and they have the same working
days then, whatever their names are. -/
theorem ofDates_is_set (name : String) (dates : List Date) :
    (ofDates name dates).holidays.Pairwise (· < ·) ∧
    (∀ d, d ∈ (ofDates name dates).holidays ↔ d ∈ dates) ∧
    (∀ d, (ofDates name dates).isHoliday d = true ↔ d ∈ dates) ∧
    (ofDates name dates).years.Pairwise (· < ·) ∧
    (∀ y, y ∈ (ofDates name dates).years ↔ ∃ d ∈ dates, d.year = y) ∧
    (∀ d, d.year ∉ (ofDates name dates).years → (ofDates name dates).isHoliday d = false) ∧
    (∀ d, (DateRule.workingDays (ofDates name dates)).allows d = true ↔
      d.isWeekend = false ∧ d ∉ dates) ∧
    (∀ dates', ofDates name dates = ofDates name dates' ↔ ∀ d, d ∈ dates ↔ d ∈ dates') ∧
    ∀ name' dates', (∀ d, d ∈ dates ↔ d ∈ dates') →
      ∀ d, (DateRule.workingDays (ofDates name dates)).allows d =
        (DateRule.workingDays (ofDates name' dates')).allows d := by
  refine ⟨ascending_arrange dates, fun d => mem_holidays_ofDates,
    fun d => isHoliday_ofDates name dates d, ascending_years _, fun y => mem_years_ofDates,
    fun d hyear => ?_, fun d => allows_workingDays_ofDates_iff, fun dates' => ofDates_eq_iff,
    fun name' dates' hsame d => ?_⟩
  · rw [Bool.eq_false_iff, ne_eq, isHoliday_ofDates]
    exact fun hd => hyear (mem_years_ofDates.2 ⟨d, hd, rfl⟩)
  · rw [Bool.eq_iff_iff, allows_workingDays_ofDates_iff, allows_workingDays_ofDates_iff, hsame]

end FormCheck.Calendar

namespace FormCheck

namespace Sample

/-- The first days of three years, listed out of order and one of them twice. -/
def listedTwice : List Date := [.newYear 0, .newYear 2025, .newYear (-1), .newYear 0]

/-- The same days, each once and from the first to the last. -/
def listedOnce : List Date := [.newYear (-1), .newYear 0, .newYear 2025]

end Sample

open Sample in
/-- Both lists make the same table, and under another name one with the same working days. -/
theorem ofDates_is_set_yearZero :
    (∀ d, d ∈ listedTwice ↔ d ∈ listedOnce) ∧
    Calendar.ofDates "old" listedTwice = Calendar.ofDates "old" listedOnce ∧
    (Calendar.ofDates "old" listedTwice).years = [-1, 0, 2025] ∧
    (Date.newYear 1).year ∉ (Calendar.ofDates "old" listedTwice).years ∧
    (Calendar.ofDates "old" listedTwice).isHoliday (.newYear 1) = false ∧
    (DateRule.workingDays (.ofDates "old" listedTwice)).allows (.newYear 0) =
      (DateRule.workingDays (.ofDates "new" listedOnce)).allows (.newYear 0) := by
  obtain ⟨-, -, -, -, -, hother, -, hequal, hrule⟩ := Calendar.ofDates_is_set "old" listedTwice
  have hsame : ∀ d, d ∈ listedTwice ↔ d ∈ listedOnce := by
    intro d
    simp only [listedTwice, listedOnce, List.mem_cons, List.not_mem_nil, or_false]
    tauto
  have hyear : (Date.newYear 1).year ∉ (Calendar.ofDates "old" listedTwice).years := by decide
  exact ⟨hsame, (hequal listedOnce).2 hsame, by decide, hyear, hother _ hyear,
    hrule "new" listedOnce hsame _⟩

end FormCheck
