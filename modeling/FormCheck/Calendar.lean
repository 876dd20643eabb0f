import FormCheck.Date.Reader

/-!
# Calendars of holidays

A `Calendar` is a named table of holidays. It keeps them in ascending order and each of them once,
so that a calendar is determined by its name and the set of its dates.

`Calendar` stands for `HolidayCalendar`: `Calendar.ofDates` is `from_dates`,
`Calendar.usFederal2025` the table of `us_federal_2025`, and `Calendar.isHoliday` and
`Calendar.years` are `is_holiday` and `covered_years`. `Calendar.isHolidayText` and
`Calendar.isWeekendText` are `is_holiday_str` and `is_weekend_str`.

* `Calendar.isHoliday_ofDates`: the holidays of a table are the dates that it is made of.
* `Calendar.ofDates_congr`: two lists of the same dates make the same table.

Every Saturday and Sunday is a day of the weekend, in every calendar. Texts are read by
`Date.leading?`; a text that begins with no date is neither a holiday nor on a weekend.
-/

namespace FormCheck

/-- A named table of holidays. -/
structure Calendar where
  name : String
  /-- The holidays, earliest first. -/
  holidays : List Date
  /-- They ascend, and none stands twice. -/
  ascending : holidays.Pairwise (· < ·)
deriving DecidableEq

namespace Calendar

/-- Puts a date into its place of an ascending list, unless it is there. -/
def place (d : Date) : List Date → List Date
  | [] => [d]
  | e :: rest => if d < e then d :: e :: rest else if e < d then e :: place d rest else e :: rest

theorem mem_place {d x : Date} {ds : List Date} : x ∈ place d ds ↔ x = d ∨ x ∈ ds := by
  induction ds with
  | nil => simp [place]
  | cons e rest ih =>
    unfold place
    split
    · simp
    · split
      · simp only [List.mem_cons, ih]
        constructor
        · rintro (h | h | h) <;> simp [h]
        · rintro (h | h | h) <;> simp [h]
      · rename_i h h'
        have : d = e := Date.le_antisymm (Date.not_lt.1 h') (Date.not_lt.1 h)
        subst this
        simp

theorem ascending_place (d : Date) {ds : List Date} (h : ds.Pairwise (· < ·)) :
    (place d ds).Pairwise (· < ·) := by
  induction ds with
  | nil => simp [place]
  | cons e rest ih =>
    rw [List.pairwise_cons] at h
    unfold place
    split
    · rename_i hd
      rw [List.pairwise_cons, List.pairwise_cons]
      refine ⟨fun x hx => ?_, h⟩
      rcases List.mem_cons.1 hx with rfl | hx
      · exact hd
      · have hx := h.1 x hx
        rw [Date.lt_def] at hd hx ⊢
        omega
    · split
      · rename_i he
        rw [List.pairwise_cons]
        refine ⟨fun x hx => ?_, ih h.2⟩
        rcases mem_place.1 hx with rfl | hx
        · exact he
        · exact h.1 x hx
      · exact List.pairwise_cons.2 h

/-- The dates of a list in ascending order, each once. -/
def arrange (dates : List Date) : List Date := dates.foldr place []

theorem mem_arrange {x : Date} {dates : List Date} : x ∈ arrange dates ↔ x ∈ dates := by
  induction dates with
  | nil => simp [arrange]
  | cons d rest ih =>
    have step : arrange (d :: rest) = place d (arrange rest) := rfl
    rw [step, mem_place, ih, List.mem_cons]

theorem ascending_arrange (dates : List Date) : (arrange dates).Pairwise (· < ·) := by
  induction dates with
  | nil => simp [arrange]
  | cons d rest ih => exact ascending_place d ih

theorem eq_of_ascending {as bs : List Date} (ha : as.Pairwise (· < ·)) (hb : bs.Pairwise (· < ·))
    (h : ∀ x, x ∈ as ↔ x ∈ bs) : as = bs := by
  induction as generalizing bs with
  | nil =>
    cases bs with
    | nil => rfl
    | cons b bs => exact absurd ((h b).2 (by simp)) (by simp)
  | cons a as ih =>
    cases bs with
    | nil => exact absurd ((h a).1 (by simp)) (by simp)
    | cons b bs =>
      rw [List.pairwise_cons] at ha hb
      have irrefl : ∀ x : Date, ¬x < x := fun x => Date.le_refl x
      have hab : a = b := by
        rcases List.mem_cons.1 ((h a).1 (by simp)) with e | hm
        · exact e
        · rcases List.mem_cons.1 ((h b).2 (by simp)) with e | hm'
          · exact e.symm
          · have h₁ := hb.1 a hm
            have h₂ := ha.1 b hm'
            rw [Date.lt_def] at h₁ h₂
            omega
      subst hab
      refine congrArg (a :: ·) (ih ha.2 hb.2 fun x => ⟨fun hx => ?_, fun hx => ?_⟩)
      · rcases List.mem_cons.1 ((h x).1 (by simp [hx])) with rfl | hm
        · exact absurd (ha.1 x hx) (irrefl x)
        · exact hm
      · rcases List.mem_cons.1 ((h x).2 (by simp [hx])) with rfl | hm
        · exact absurd (hb.1 x hx) (irrefl x)
        · exact hm

/-- The table of the given dates. -/
def ofDates (name : String) (dates : List Date) : Calendar :=
  ⟨name, arrange dates, ascending_arrange dates⟩

/-- The observed federal holidays of the United States in 2025. -/
def usFederal2025 : Calendar :=
  ofDates "us-federal-2025" <|
    [(1, 1), (1, 20), (2, 17), (5, 26), (6, 19), (7, 4), (9, 1), (10, 13), (11, 11), (11, 27),
      (12, 25)].filterMap fun (month, day) => Date.ofYmd? 2025 month day

/-- Whether a date is in the table. -/
def isHoliday (c : Calendar) (d : Date) : Bool := c.holidays.contains d

/-- The years of the holidays, each once. A date of another year is no holiday. -/
def years (c : Calendar) : List Int := (c.holidays.map Date.year).eraseReps

/-- Whether a date is a working day: neither on a weekend nor a holiday. -/
def isWorkingDay (c : Calendar) (d : Date) : Bool := !d.isWeekend && !c.isHoliday d

/-- Whether the date with which a text begins is a holiday. -/
def isHolidayText (c : Calendar) (text : String) : Bool := (Date.leading? text).any c.isHoliday

/-- Whether the date with which a text begins is on a weekend. -/
def isWeekendText (text : String) : Bool := (Date.leading? text).any Date.isWeekend

theorem isHoliday_ofDates (name : String) (dates : List Date) (d : Date) :
    (ofDates name dates).isHoliday d = true ↔ d ∈ dates := by
  rw [isHoliday, List.contains_iff_mem]
  exact mem_arrange

/-- Two lists of the same dates make the same table. -/
theorem ofDates_congr (name : String) {as bs : List Date} (h : ∀ d, d ∈ as ↔ d ∈ bs) :
    ofDates name as = ofDates name bs := by
  have : arrange as = arrange bs :=
    eq_of_ascending (ascending_arrange as) (ascending_arrange bs) fun x => by
      rw [mem_arrange, mem_arrange, h]
  simp [ofDates, this]

end Calendar

end FormCheck
