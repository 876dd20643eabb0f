import FormCheck.Proofs.Acceptance
import FormCheck.Proofs.Documents
import FormCheck.Proofs.LeadingDates

/-!
# Working days, told by a form and by the calendar

Whether a text names a working day can be asked in two ways. A form reads the text in the format of
dates, strictly and to its end, and hands the date to the date rule that is registered under
`noWeekendOrHoliday`. The calendar takes the first ten bytes of the text, reads them leniently, and
looks the date up itself.

The calendar answers by `is_weekend_str` and `is_holiday_str`; `Policy.withCalendar` binds it as
`calendar` of a `CompilerBuilder` does.

* `Policy.breaks_workingDays_iff`: the calendar that is bound to a policy decides about its working
  days.
* **`Policy.form_withCalendar`**: a field with this rule alone accepts a text that spells a date
  exactly if the calendar says of the text neither that it is on a weekend nor that it is a holiday.
-/

namespace FormCheck

/-! ## The rule of working days -/

/-- Dates are asked for, and nothing of them but that they are working days. -/
structure Requirement.OnlyWorkingDays (r : Requirement) : Prop where
  kind : r.kind = .date
  minDate : r.minDate = none
  customRule : r.customRule = some "noWeekendOrHoliday"

namespace Calendar

theorem isWorkingDay_iff {c : Calendar} {d : Date} :
    c.isWorkingDay d = true ↔ d.isWeekend = false ∧ c.isHoliday d = false := by
  simp [isWorkingDay]

variable {c : Calendar} {s : String} {d : Date}

theorem isWeekendText_of_leading? (h : Date.leading? s = some d) :
    isWeekendText s = d.isWeekend := by
  rw [isWeekendText, h, Option.any_some]

theorem isHolidayText_of_leading? (h : Date.leading? s = some d) :
    c.isHolidayText s = c.isHoliday d := by
  rw [isHolidayText, h, Option.any_some]

end Calendar

namespace Policy

variable {p : Policy} {c : Calendar} {r : Requirement} {d : Date}

/-- **The calendar that is bound to a policy** decides about its working days. -/
theorem breaks_workingDays_iff (h : r.OnlyWorkingDays) :
    (p.withCalendar c).Breaks r (.date d) .customRule ↔ c.isWorkingDay d = false := by
  have hrule : (p.withCalendar c).rules.get? "noWeekendOrHoliday" = some (DateRule.workingDays c) := by
    show (p.rules.withRule _ _).get? _ = _
    rw [DateRules.get?_withRule]
    rfl
  simp only [Breaks, h.customRule, Option.mem_def, Option.some.injEq, exists_eq_left', hrule]
  rfl

theorem constraint_eq_of_breaks (h : r.OnlyWorkingDays) {broken : Constraint}
    (hbreaks : p.Breaks r (.date d) broken) : broken = .customRule := by
  obtain rfl | rfl := constraint_of_breaks_date hbreaks
  · obtain ⟨written, hwritten, -⟩ := hbreaks
    rw [h.minDate] at hwritten
    cases hwritten
  · rfl

/-- Of a value that spells a date nothing is asked but that the date is a working day. -/
theorem meets_workingDays_iff (h : r.OnlyWorkingDays) {v : Json} (hpresent : ¬ r.kind.Absent v)
    (hd : Inspection.date? p.settings.dateFormat v = some d) :
    (p.withCalendar c).Meets r v ↔ c.isWorkingDay d = true := by
  rw [meets_iff_of_date h.kind hpresent]
  constructor
  · rintro ⟨d', hd', -, hallowed⟩
    obtain rfl : d = d' := Option.some.inj (hd.symm.trans hd')
    rwa [breaks_workingDays_iff h, Bool.not_eq_false] at hallowed
  · intro hworking
    refine ⟨d, hd, fun hmin => ?_, ?_⟩
    · cases constraint_eq_of_breaks h hmin
    · rw [breaks_workingDays_iff h, Bool.not_eq_false]
      exact hworking

/-- **Form and calendar agree on working days.** A calendar of any holidays is bound to a policy with
the standard format of dates. A field of which only working days are asked then accepts a text that
spells a date exactly if the calendar's answers for the text are that it is on no weekend and no
holiday; otherwise it is the date rule that fails. -/
theorem form_withCalendar {p : Policy} (hformat : p.settings.dateFormat = Date.isoFormat)
    (name : String) (holidays : List Date) {b : RuleBook} {field : String} {rule : Rule}
    {r : Requirement} (hrule : b.fields.get? field = some rule)
    (hr : b.require field rule = .ok r) (honly : r.OnlyWorkingDays) {s : String}
    (hs : (Inspection.date? p.settings.dateFormat (.text s)).isSome = true) :
    (((p.withCalendar (.ofDates name holidays)).form b).verdict field (.text s) = .accepted ↔
      Calendar.isWeekendText s = false ∧
        (Calendar.ofDates name holidays).isHolidayText s = false) ∧
    (¬ (Calendar.isWeekendText s = false ∧
        (Calendar.ofDates name holidays).isHolidayText s = false) →
      ∃ f, ((p.withCalendar (.ofDates name holidays)).form b).verdict field (.text s) =
        .rejected f ∧ f.constraint = .customRule) := by
  generalize Calendar.ofDates name holidays = c
  obtain ⟨d, hd⟩ := Option.isSome_iff_exists.1 hs
  have hparse : Date.parse? Date.isoFormat s = some d := hformat ▸ hd
  have hleading := Date.leading?_of_parse? hparse
  have hpresent : ¬ r.kind.Absent (.text s) := by
    rw [honly.kind]
    simp [Kind.Absent, Date.ne_empty_of_parse? hparse]
  have haccepted : ((p.withCalendar c).form b).verdict field (.text s) = .accepted ↔
      Calendar.isWeekendText s = false ∧ c.isHolidayText s = false := by
    rw [verdict_form hrule hr, verdict_eq_accepted_iff, meets_workingDays_iff honly hpresent hd,
      Calendar.isWorkingDay_iff, Calendar.isWeekendText_of_leading? hleading,
      Calendar.isHolidayText_of_leading? hleading]
  refine ⟨haccepted, fun hnot => ?_⟩
  cases hv : ((p.withCalendar c).form b).verdict field (.text s) with
  | accepted => exact absurd (haccepted.1 hv) hnot
  | rejected f =>
    rw [verdict_form hrule hr] at hv
    have hreading : (p.withCalendar c).reading? r.kind (.text s) = some (.date d) := by
      rw [honly.kind]
      exact congrArg (Option.map Reading.date) hd
    exact ⟨f, rfl, constraint_eq_of_breaks honly (breaks_of_rejected hpresent hreading hv)⟩

end Policy

namespace Sample

/-- A day that has to be a working day. -/
def workBook : RuleBook where
  fields := .ofList [("day", { Rule.ofKind .date with customRule := some "noWeekendOrHoliday" })]

/-- The second of January 2025, a Thursday. -/
def secondOfJanuary : Date := (Date.newYear 2025).next

end Sample

open Sample in
/-- With the second of January as the only holiday the first is a working day, and the second is
rejected with blanks of any kind around it. -/
theorem form_withCalendar_secondOfJanuary :
    policy.settings.dateFormat = Date.isoFormat ∧
    (∃ rule r, workBook.fields.get? "day" = some rule ∧ workBook.require "day" rule = .ok r ∧
      r.OnlyWorkingDays) ∧
    (Inspection.date? policy.settings.dateFormat (.text "\u00a02025-01-02\n")).isSome = true ∧
    (∃ f, ((policy.withCalendar (.ofDates "january" [secondOfJanuary])).form workBook).verdict "day"
      (.text "\u00a02025-01-02\n") = .rejected f ∧ f.constraint = .customRule) ∧
    (Inspection.date? policy.settings.dateFormat (.text "2025-01-01")).isSome = true ∧
    ((policy.withCalendar (.ofDates "january" [secondOfJanuary])).form workBook).verdict "day"
      (.text "2025-01-01") = .accepted := by
  have hrule : workBook.fields.get? "day" =
      some { Rule.ofKind .date with customRule := some "noWeekendOrHoliday" } := rfl
  have honly : Requirement.OnlyWorkingDays
      { kind := .date, customRule := some "noWeekendOrHoliday" } := ⟨rfl, rfl, rfl⟩
  have hsecond : (Inspection.date? policy.settings.dateFormat
      (.text "\u00a02025-01-02\n")).isSome = true := by decide +kernel
  have hfirst : (Inspection.date? policy.settings.dateFormat (.text "2025-01-01")).isSome = true := by
    decide +kernel
  obtain ⟨-, hfails⟩ := Policy.form_withCalendar (p := policy) rfl "january" [secondOfJanuary]
    hrule rfl honly hsecond
  obtain ⟨haccepts, -⟩ := Policy.form_withCalendar (p := policy) rfl "january" [secondOfJanuary]
    hrule rfl honly hfirst
  exact ⟨rfl, ⟨_, _, rfl, rfl, honly⟩, hsecond, hfails (by decide +kernel), hfirst,
    haccepts.2 (by decide +kernel)⟩

end FormCheck
