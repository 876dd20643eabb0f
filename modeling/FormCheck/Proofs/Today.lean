import FormCheck.Proofs.Acceptance
import FormCheck.Proofs.Remarks

/-!
# What the current date decides

A rule may bound its dates by the word `today`. Here one policy is looked at on different days
(`Policy.onDay`), with the forms that it makes of one book.

A policy on a day (`Policy.onDay`) is a compiler with a `FixedClock` of this day.

* `Policy.checker_onDay`: a requirement that does not bound its dates by the current one
  (`Requirement.BoundByToday`) has the same checker on every day.
* `Policy.meets_onDay_iff`: for one that does, the day is the least date that is accepted. The date
  rule that may follow in the chain does not see the day.
* `Policy.outline_onDay`, `Policy.remarks_onDay`: what a form is like from outside, and what it
  remarks, is the same on every day.
* **`Policy.form_onDay`**: the form of a later day accepts less, and only where `today` is the bound:
  exactly the dates before that day are lost.
-/

namespace FormCheck

/-- **Dates are bounded by the current one.** -/
def Requirement.BoundByToday (r : Requirement) : Prop := r.kind = .date ∧ r.minDate = some "today"

/-! ## Forms from outside -/

/-- What a checker is like from outside: the field, the kind, whether there has to be a value, and
how many checks follow the one of the kind. -/
structure Checker.Outline where
  field : String
  kind : Kind
  required : Bool
  size : Nat

def Checker.outline (c : Checker) : Checker.Outline :=
  ⟨c.field, c.kind, c.required, c.inspection.size⟩

/-- What a form is like from outside: the fields in their order, each with the outline of its
checker. -/
def Form.outline (form : Form) : Dict Checker.Outline :=
  form.checkers.mapValues fun _ c => c.outline

namespace Policy

/-- The policy on a given day. -/
def onDay (p : Policy) (day : Date) : Policy := { p with today := day }

section

variable (p : Policy) (r : Requirement) (day day' : Date)

/-! ## What does not depend on the day -/

theorem minDateClause_onDay {written : String} (h : written ≠ "today") :
    (p.onDay day).minDateClause written = p.minDateClause written := by
  unfold minDateClause
  rw [earliest?_literal _ h, earliest?_literal _ h]
  rfl

theorem inspection_onDay {r : Requirement} (h : ¬ r.BoundByToday) :
    (p.onDay day).inspection r = p.inspection r := by
  unfold inspection
  cases hkind : r.kind with
  | date =>
    have hclause : r.minDate.map (p.onDay day).minDateClause = r.minDate.map p.minDateClause := by
      cases hmin : r.minDate with
      | none => rfl
      | some written =>
        have hne : written ≠ "today" := fun e => h ⟨hkind, e ▸ hmin⟩
        exact congrArg some (minDateClause_onDay p day hne)
    have hclauses : (p.onDay day).dateClauses r = p.dateClauses r := by
      unfold dateClauses
      rw [hclause]
      rfl
    rw [hclauses]
    rfl
  | _ => rfl

/-- A requirement that is not bounded by the current date has one checker for all days. -/
theorem checker_onDay {r : Requirement} (h : ¬ r.BoundByToday) (field : String) :
    (p.onDay day).checker field r = p.checker field r := by
  unfold checker
  rw [inspection_onDay p day h]

/-- What a policy cannot honour does not depend on the day: `today` always names a date. -/
theorem shortfalls_onDay : (p.onDay day).shortfalls r = p.shortfalls r := by
  rw [shortfalls_eq_due, shortfalls_eq_due]
  rfl

/-- The checks of a requirement are as many as it sets and the policy does not lose, which does not
depend on the day. -/
theorem size_inspection_onDay : ((p.onDay day).inspection r).size = (p.inspection r).size := by
  have hlost : (p.onDay day).lost r = p.lost r := rfl
  have hday := size_inspection_add_lost (p.onDay day) r
  have hp := size_inspection_add_lost p r
  rw [hlost] at hday
  omega

theorem outline_checker_onDay (field : String) :
    ((p.onDay day).checker field r).outline = (p.checker field r).outline :=
  congrArg (Checker.Outline.mk field r.kind r.required) (size_inspection_onDay p r day)

theorem remarksOn_onDay (field : String) (asked : Except Unresolved Requirement) :
    (p.onDay day).remarksOn field asked = p.remarksOn field asked := by
  cases asked with
  | ok r => exact congrArg (List.map (Remark.shortfall field)) (shortfalls_onDay p r day)
  | error cause => rfl

variable (b : RuleBook)

/-- **A form is the same from outside on every day.** -/
theorem outline_onDay : ((p.onDay day).form b).outline = (p.form b).outline := by
  show (b.fields.filterMap _).mapValues _ = (b.fields.filterMap _).mapValues _
  rw [Dict.mapValues_filterMap, Dict.mapValues_filterMap]
  congr 1
  funext field rule
  cases b.require field rule with
  | error cause => rfl
  | ok r => exact congrArg some (outline_checker_onDay p r day field)

/-- **A form remarks the same on every day.** -/
theorem remarks_onDay : ((p.onDay day).form b).remarks = (p.form b).remarks := by
  unfold form
  simp only [remarksOn_onDay]

theorem verdict_onDay {field : String}
    (h : ∀ rule r, b.fields.get? field = some rule → b.require field rule = .ok r →
      ¬ r.BoundByToday) (v : Json) :
    ((p.onDay day).form b).verdict field v = (p.form b).verdict field v := by
  have hget : ((p.onDay day).form b).get? field = (p.form b).get? field := by
    rw [get?_form, get?_form]
    cases hrule : b.fields.get? field with
    | none => rfl
    | some rule =>
      cases hr : b.require field rule with
      | error cause => simp only [Option.bind_some, hr, Except.toOption, Option.map_none]
      | ok r =>
        simp only [Option.bind_some, hr, Except.toOption, Option.map_some,
          checker_onDay p day (h rule r hrule hr) field]
  rw [Form.verdict, Form.verdict, hget]

/-! ## What depends on the day -/

theorem breaks_minDate_onDay_iff {r : Requirement} (h : r.BoundByToday) (d : Date) :
    (p.onDay day).Breaks r (.date d) .minDate ↔ d < day :=
  breaks_minDate_iff h.2 (earliest?_today (p.onDay day)) d

/-- **The day is the least date that is accepted.** -/
theorem meets_onDay_iff {r : Requirement} (h : r.BoundByToday) {v : Json}
    (hpresent : ¬ r.kind.Absent v) :
    (p.onDay day).Meets r v ↔ ∃ d, Inspection.date? p.settings.dateFormat v = some d ∧ day ≤ d ∧
      ¬ p.Breaks r (.date d) .customRule := by
  rw [meets_iff_of_date h.1 hpresent]
  simp only [breaks_minDate_onDay_iff p day h, Date.not_lt]
  exact Iff.rfl

/-- What is absent is accepted on every day or on none. -/
theorem meets_onDay_of_absent {v : Json} (h : r.kind.Absent v) :
    (p.onDay day).Meets r v ↔ p.Meets r v := by
  unfold Meets
  rw [if_pos h, if_pos h]

end

variable {p : Policy} {r : Requirement} {day later : Date}

theorem Meets.of_onDay_later (h : r.BoundByToday) (hle : day ≤ later) {v : Json}
    (hv : (p.onDay later).Meets r v) : (p.onDay day).Meets r v := by
  by_cases ha : r.kind.Absent v
  · rw [meets_onDay_of_absent p r _ ha] at hv ⊢
    exact hv
  · obtain ⟨d, hd, hlater, hrule⟩ := (meets_onDay_iff p later h ha).1 hv
    exact (meets_onDay_iff p day h ha).2 ⟨d, hd, Date.le_trans hle hlater, hrule⟩

/-- **The current date only counts where `today` is the bound, and later days accept less.** Between
two days the form of a book keeps its fields with their kinds, their need of a value and the number
of their checks, and its remarks. The answers differ for no field but those whose dates are bounded
by the current one; what the form of the later day accepts, that of the earlier day accepts; and a
present value is lost to the later day exactly if it spells a date before it. -/
theorem form_onDay (p : Policy) (b : RuleBook) {day later : Date} (hle : day ≤ later) :
    ((p.onDay later).form b).outline = ((p.onDay day).form b).outline ∧
    ((p.onDay later).form b).remarks = ((p.onDay day).form b).remarks ∧
    (∀ field, (∀ rule r, b.fields.get? field = some rule → b.require field rule = .ok r →
        ¬ r.BoundByToday) →
      ∀ v, ((p.onDay later).form b).verdict field v = ((p.onDay day).form b).verdict field v) ∧
    (∀ field v, ((p.onDay later).form b).verdict field v = .accepted →
      ((p.onDay day).form b).verdict field v = .accepted) ∧
    ∀ field rule r, b.fields.get? field = some rule → b.require field rule = .ok r →
      r.BoundByToday → ∀ v d, ¬ r.kind.Absent v →
      Inspection.date? p.settings.dateFormat v = some d →
      (((p.onDay later).form b).verdict field v = .accepted ↔
        ((p.onDay day).form b).verdict field v = .accepted ∧ later ≤ d) := by
  have hsame : ∀ field, (∀ rule r, b.fields.get? field = some rule → b.require field rule = .ok r →
      ¬ r.BoundByToday) → ∀ v,
      ((p.onDay later).form b).verdict field v = ((p.onDay day).form b).verdict field v :=
    fun field h v => (verdict_onDay p later b h v).trans (verdict_onDay p day b h v).symm
  refine ⟨?_, ?_, hsame, fun field v hv => ?_, fun field rule r hrule hr h v d hpresent hd => ?_⟩
  · rw [outline_onDay, outline_onDay]
  · rw [remarks_onDay, remarks_onDay]
  · by_cases h : ∃ rule r, b.fields.get? field = some rule ∧ b.require field rule = .ok r ∧
        r.BoundByToday
    · obtain ⟨rule, r, hrule, hr, htoday⟩ := h
      rw [verdict_form hrule hr, verdict_eq_accepted_iff] at hv ⊢
      exact hv.of_onDay_later htoday hle
    · rw [← hsame field fun rule r hrule hr htoday => h ⟨rule, r, hrule, hr, htoday⟩, hv]
  · rw [verdict_form hrule hr, verdict_form hrule hr, verdict_eq_accepted_iff,
      verdict_eq_accepted_iff, meets_onDay_iff p later h hpresent, meets_onDay_iff p day h hpresent,
      hd]
    simp only [Option.some.injEq, exists_eq_left']
    constructor
    · rintro ⟨hlater, hallowed⟩
      exact ⟨⟨Date.le_trans hle hlater, hallowed⟩, hlater⟩
    · rintro ⟨⟨-, hallowed⟩, hlater⟩
      exact ⟨hlater, hallowed⟩

end Policy

namespace Sample

/-- Thursday, the second of January 2025. -/
def thursday : Date := (Date.newYear 2025).next

/-- The day after. -/
def friday : Date := thursday.next

/-- A due date, not in the past and on a working day, and a date of entry without either. -/
def dueBook : RuleBook where
  fields := .ofList
    [("due",
        { Rule.ofKind .date with minDate := some "today", customRule := some "noWeekendOrHoliday" }),
      ("entry", { Rule.ofKind .date with minDate := some "2024-01-01" })]

end Sample

open Sample in
/-- On Friday a due date on Thursday is lost, and nothing else changes. -/
theorem form_onDay_due :
    thursday ≤ friday ∧
    (∃ rule r, dueBook.fields.get? "due" = some rule ∧ dueBook.require "due" rule = .ok r ∧
      r.BoundByToday) ∧
    ((policy.onDay friday).form dueBook).outline = ((policy.onDay thursday).form dueBook).outline ∧
    ((policy.onDay friday).form dueBook).remarks = ((policy.onDay thursday).form dueBook).remarks ∧
    ((policy.onDay thursday).form dueBook).verdict "due" (.text "2025-01-02") = .accepted ∧
    ((policy.onDay friday).form dueBook).verdict "due" (.text "2025-01-02") ≠ .accepted ∧
    ((policy.onDay friday).form dueBook).verdict "due" (.text "2025-01-03") = .accepted ∧
    ((policy.onDay thursday).form dueBook).verdict "due" (.text "2025-01-03") = .accepted ∧
    ∀ v, ((policy.onDay friday).form dueBook).verdict "entry" v =
      ((policy.onDay thursday).form dueBook).verdict "entry" v := by
  have hle : thursday ≤ friday := by decide
  obtain ⟨houtline, hremarks, hother, hearlier, hlost⟩ := Policy.form_onDay policy dueBook hle
  have hdue := hlost "due" _ _ rfl rfl ⟨rfl, rfl⟩ (.text "2025-01-02") thursday (by decide)
    (by decide +kernel)
  have hthursday : ((policy.onDay thursday).form dueBook).verdict "due" (.text "2025-01-02") =
      .accepted := by decide +kernel
  have hfriday : ((policy.onDay friday).form dueBook).verdict "due" (.text "2025-01-03") =
      .accepted := by decide +kernel
  have hentry : ∀ rule r, dueBook.fields.get? "entry" = some rule →
      dueBook.require "entry" rule = .ok r → ¬ r.BoundByToday := by
    intro rule r hrule hr htoday
    cases hrule
    cases hr
    exact absurd htoday.2 (by decide)
  have hnot : ¬ friday ≤ thursday := by decide
  exact ⟨hle, ⟨_, _, rfl, rfl, rfl, rfl⟩, houtline, hremarks, hthursday,
    fun h => hnot (hdue.1 h).2, hfriday, hearlier _ _ hfriday, hother "entry" hentry⟩

end FormCheck
