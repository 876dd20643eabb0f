import FormCheck.Proofs.StandardDates
import FormCheck.Proofs.Tightening

/-!
# Earliest dates and the order of texts

In the standard format the earlier date has the smaller text, because every part of a date has its
columns and the parts stand in the order in which dates are compared. So once a text is known to spell
a date, whether it is too early can be told from the texts alone.

`Policy.BoundText` is the text of a `DateBound`, and what is compared is what `NotBefore` compares.

* `Date.text_lt_text_iff`: the earlier of two dates has the smaller text.
* `Policy.BoundText`: the text of a bound, which is the literal that the requirement writes or, where it
  writes the word for the current date, the standard text of that date.
* **`Policy.minDate_as_order_of_texts`**: what is rejected for the earliest date is what is smaller than
  that text; the bound's own day is not; and the word and the literal admit the same values.
-/

namespace FormCheck

/-! ## The order of standard texts -/

namespace Date

variable {d d' : Date}

/-- **The earlier date has the smaller text.** -/
theorem text_lt_text_iff (h : d.FourDigitYear) (h' : d'.FourDigitYear) :
    d.text < d'.text ↔ d < d' := by
  rw [String.lt_iff, text, text, String.toList_ofList, String.toList_ofList, chars_eq h, chars_eq h',
    h.digitRun.append_lt_append_iff h'.digitRun, cons_lt_cons_same,
    d.digitRun_month.append_lt_append_iff d'.digitRun_month, cons_lt_cons_same,
    d.digitRun_day.lt_iff d'.digitRun_day]
  simp only [digitsValue_padded]
  rw [lt_def]
  unfold FourDigitYear at h h'
  omega

end Date

namespace Policy

variable {p : Policy} {r : Requirement} {bound : String}

/-- **The text of the bound.** A requirement writes its earliest date as a literal, which is the text
then if it can be honoured; or as the word for the current date, whose standard text it is then, if
the year has four digits. -/
inductive BoundText (p : Policy) (r : Requirement) : String → Prop
  | literal {written : String} (set : r.minDate = some written) (word : written ≠ "today")
      (honoured : .invalidMinDate written ∉ p.shortfalls r) : BoundText p r written
  | today (set : r.minDate = some "today") (year : p.today.FourDigitYear) :
      BoundText p r p.today.text

/-- The text of the bound is the standard text of the date by which the requirement is checked. -/
theorem BoundText.exists_earliest (hformat : p.settings.dateFormat = Date.isoFormat)
    (hkind : r.kind = .date) (h : p.BoundText r bound) :
    ∃ written d, r.minDate = some written ∧ p.earliest? written = some d ∧ d.FourDigitYear ∧
      Text.trim bound = d.text := by
  cases h with
  | literal set word honoured =>
    rw [invalidMinDate_mem_shortfalls_iff hkind set] at honoured
    obtain ⟨d, hd⟩ := Option.ne_none_iff_exists'.1 honoured
    have hparse := hd
    rw [earliest?_literal p word, hformat] at hparse
    obtain ⟨hyear, htrim⟩ := Date.parse?_eq_some_iff_text.1 hparse
    exact ⟨_, d, set, hd, hyear, htrim⟩
  | today set year =>
    exact ⟨_, p.today, set, earliest?_today p, year, Date.trim_text year⟩

/-- What is met with one way to write the earliest date is met with another way to write it. -/
theorem Meets.of_earliest {written written' : String} {d : Date} {v : Json}
    (h : p.earliest? written = some d) (h' : p.earliest? written' = some d)
    (hv : p.Meets { r with minDate := some written } v) :
    p.Meets { r with minDate := some written' } v := by
  refine hv.of_breaks ?_ ?_ fun x c hbroken => ?_
  · rfl
  · exact id
  · cases x with
    | date x =>
      cases c with
      | minDate =>
        rw [breaks_minDate_iff rfl h'] at hbroken
        exact (breaks_minDate_iff rfl h x).2 hbroken
      | _ => exact hbroken
    | _ => cases c <;> exact hbroken

/-- **In the standard format an earliest date is an order of texts.** Take a requirement of dates with
a bound that has a text. A text that spells a date is rejected for the earliest date exactly if, with
the blanks around them taken away, it is smaller than the text of the bound. The bound's own day
spells a date and is never rejected for anything but a date rule. And the word for the current date
accepts the same values as the standard text of that date. -/
theorem minDate_as_order_of_texts {p : Policy} (hformat : p.settings.dateFormat = Date.isoFormat)
    {r : Requirement} (hkind : r.kind = .date) {bound : String} (hbound : p.BoundText r bound)
    (field : String) :
    (∀ s, (Inspection.date? p.settings.dateFormat (.text s)).isSome = true →
      ((∃ f, (p.checker field r).verdict (.text s) = .rejected f ∧ f.constraint = .minDate) ↔
        Text.trim s < Text.trim bound)) ∧
    (∀ s, Text.trim s = Text.trim bound →
      (Inspection.date? p.settings.dateFormat (.text s)).isSome = true ∧
      ∀ f, (p.checker field r).verdict (.text s) = .rejected f → f.constraint = .customRule) ∧
    (p.today.FourDigitYear → ∀ v,
      ((p.checker field { r with minDate := some "today" }).verdict v = .accepted ↔
        (p.checker field { r with minDate := some p.today.text }).verdict v = .accepted)) := by
  obtain ⟨written, earliest, hmin, hearliest, hyear, htrim⟩ :=
    hbound.exists_earliest hformat hkind
  have hdate : ∀ {s d}, Date.parse? Date.isoFormat s = some d →
      Inspection.date? p.settings.dateFormat (.text s) = some d := fun h => hformat ▸ h
  have hpresent : ∀ {s d}, Date.parse? Date.isoFormat s = some d → ¬ r.kind.Absent (.text s) := by
    intro s d h
    rw [hkind]
    simp [Kind.Absent, Date.ne_empty_of_parse? h]
  refine ⟨fun s hs => ?_, fun s hs => ?_, fun htoday v => ?_⟩
  · obtain ⟨d, hd⟩ := Option.isSome_iff_exists.1 hs
    have hparse : Date.parse? Date.isoFormat s = some d := hformat ▸ hd
    obtain ⟨hyear', htrim'⟩ := Date.parse?_eq_some_iff_text.1 hparse
    rw [rejected_iff_violated?, violated?_eq_minDate_iff hkind (hpresent hparse) hd,
      breaks_minDate_iff hmin hearliest, htrim, htrim', Date.text_lt_text_iff hyear' hyear]
  · have hparse : Date.parse? Date.isoFormat s = some earliest :=
      Date.parse?_eq_some_iff_text.2 ⟨hyear, hs.trans htrim⟩
    have hd := hdate hparse
    refine ⟨by rw [hd]; rfl, fun f hf => ?_⟩
    have hreading : p.reading? r.kind (.text s) = some (.date earliest) := by
      rw [hkind]
      exact congrArg (Option.map Reading.date) hd
    have hbroken := breaks_of_rejected (hpresent hparse) hreading hf
    obtain hconstraint | hconstraint := constraint_of_breaks_date hbroken
    · rw [hconstraint, breaks_minDate_iff hmin hearliest] at hbroken
      exact absurd hbroken (Date.not_lt.2 (Date.le_refl earliest))
    · exact hconstraint
  · have hliteral : p.earliest? p.today.text = some p.today :=
      earliest?_of_parse? (hformat ▸ Date.parse?_text htoday)
    rw [verdict_eq_accepted_iff, verdict_eq_accepted_iff]
    exact ⟨fun hv => hv.of_earliest (earliest?_today p) hliteral,
      fun hv => hv.of_earliest hliteral (earliest?_today p)⟩

end Policy

namespace Sample

/-- A day that is not in the past. -/
def upcoming : Requirement := { kind := .date, minDate := some "today" }

/-- A day of the year 2025 or of a later one, with a blank too much. -/
def recent : Requirement := { kind := .date, minDate := some "2025-01-01 " }

end Sample

open Sample in
/-- On the first of January 2025 the last day of 2024 is rejected, because its text is smaller, and the
day itself is not. The word for that day and its text are two bounds with one text. -/
theorem minDate_as_order_of_texts_newYear :
    policy.settings.dateFormat = Date.isoFormat ∧ upcoming.kind = .date ∧ recent.kind = .date ∧
    policy.BoundText upcoming "2025-01-01" ∧ policy.BoundText recent "2025-01-01 " ∧
    (Inspection.date? policy.settings.dateFormat (.text "\u00a02024-12-31")).isSome = true ∧
    (∃ f, (policy.checker "due" upcoming).verdict (.text "\u00a02024-12-31") = .rejected f ∧
      f.constraint = .minDate) ∧
    (∃ f, (policy.checker "due" recent).verdict (.text "\u00a02024-12-31") = .rejected f ∧
      f.constraint = .minDate) ∧
    (∀ f, (policy.checker "due" recent).verdict (.text "2025-01-01") = .rejected f →
      f.constraint = .customRule) ∧
    policy.today.FourDigitYear ∧
    ∀ v, ((policy.checker "due" { upcoming with minDate := some "today" }).verdict v = .accepted ↔
      (policy.checker "due" { upcoming with minDate := some policy.today.text }).verdict v =
        .accepted) := by
  have htext : policy.today.text = "2025-01-01" := by decide +kernel
  have hyear : policy.today.FourDigitYear := by decide
  have hupcoming : policy.BoundText upcoming "2025-01-01" := htext ▸ .today rfl hyear
  have hrecent : policy.BoundText recent "2025-01-01 " :=
    .literal rfl (by decide) (by decide +kernel)
  have hspells : (Inspection.date? policy.settings.dateFormat
      (.text "\u00a02024-12-31")).isSome = true := by decide +kernel
  obtain ⟨hword, -, hsame⟩ :=
    Policy.minDate_as_order_of_texts (p := policy) rfl (r := upcoming) rfl hupcoming "due"
  obtain ⟨hliteral, hown, -⟩ :=
    Policy.minDate_as_order_of_texts (p := policy) rfl (r := recent) rfl hrecent "due"
  have hsmaller : Text.trim "\u00a02024-12-31" < Text.trim "2025-01-01" := by decide +kernel
  have hsmaller' : Text.trim "\u00a02024-12-31" < Text.trim "2025-01-01 " := by decide +kernel
  obtain ⟨-, hday⟩ := hown "2025-01-01" (by decide +kernel)
  exact ⟨rfl, rfl, rfl, hupcoming, hrecent, hspells, (hword _ hspells).2 hsmaller,
    (hliteral _ hspells).2 hsmaller', hday, hyear, hsame hyear⟩

end FormCheck
