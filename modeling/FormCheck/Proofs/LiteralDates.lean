import FormCheck.Proofs.Acceptance
import FormCheck.Proofs.Omissions
import FormCheck.Proofs.Remarks

/-!
# A literal as a bound and as a value

A requirement may write its earliest date as a literal. The policy reads the literal once, when it
makes the checker; what is entered into the field is read each time. So a literal might be a date in
one place and none in the other, or a date that is too early for itself. It is neither, in whatever
format dates are written: nothing in this file depends on how a format is read.

The literal is read in `date_chain`, the value by `coerce_date`.

* `Policy.earliest?_eq_date?`: the two readers agree on literals.
* `Check.Reports`: the constraints by which a check tells its failures.
* `Policy.oneMore_dateChecks`, `Policy.not_reports_minDate`: the checks of a requirement with an
  earliest date, and of one without.
* **`Policy.literal_judged_alike`**: a literal is reported, and rejected as a value; or it is checked,
  and passes as a value.
-/

namespace FormCheck

/-- A check reports a constraint if there is a value that fails it by this constraint. -/
def Check.Reports {α : Type} (check : Check α) (c : Constraint) : Prop :=
  ∃ x f, check.run x = .rejected f ∧ f.constraint = c

theorem Check.not_reports_minDate_dateRule (name : String) (rule : DateRule) :
    ¬ (Check.dateRule name rule).Reports .minDate := by
  rintro ⟨d, f, hrun, hconstraint⟩
  unfold Check.dateRule Check.of Verdict.ofCondition at hrun
  dsimp only at hrun
  split at hrun
  · cases hrun
  · cases hrun
    cases hconstraint

/-- The checks of dates. -/
def Inspection.dateChecks : Inspection → List (Check Date)
  | .date _ checks => checks.links
  | _ => []

namespace Policy

variable {p : Policy} {r : Requirement} {written : String}

/-! ## The checks of an earliest date -/

theorem dateChecks_inspection (hkind : r.kind = .date) :
    (p.inspection r).dateChecks = (p.dateClauses r).filterMap Except.toOption := by
  rw [inspection, hkind]
  rfl

theorem not_reports_minDate (hmin : r.minDate = none) {check : Check Date}
    (hmem : check ∈ (p.inspection r).dateChecks) : ¬ check.Reports .minDate := by
  cases hkind : r.kind with
  | date =>
    rw [dateChecks_inspection hkind, dateClauses, hmin, List.mem_filterMap] at hmem
    obtain ⟨clause, hclause, hcheck⟩ := hmem
    obtain ⟨name, -, rfl⟩ := Option.map_eq_some_iff.1 (Option.mem_toList.1 hclause)
    unfold dateRuleClause at hcheck
    split at hcheck
    next rule hrule =>
      cases hcheck
      exact Check.not_reports_minDate_dateRule name rule
    next => cases hcheck
  | _ =>
    rw [inspection, hkind] at hmem
    exact absurd hmem List.not_mem_nil

/-- **An earliest date that is read is checked once**, besides what is checked without it. -/
theorem oneMore_dateChecks {bound : Date} (hkind : r.kind = .date)
    (hmin : r.minDate = some written) (hbound : p.earliest? written = some bound) :
    OneMore (.minDate bound written) (p.inspection r).dateChecks
      (p.inspection (r.without .minDate)).dateChecks := by
  have hone := oneMore_dateClauses_minDate (p := p) hmin
  rw [minDateClause_of_some hbound] at hone
  rw [dateChecks_inspection hkind, dateChecks_inspection ((r.kind_without _).trans hkind)]
  exact hone.filterMap_of_some rfl

/-! ## The literal as a value -/

/-- **A literal is read as a value is.** -/
theorem earliest?_eq_date? (p : Policy) (hword : written ≠ "today") :
    p.earliest? written = Inspection.date? p.settings.dateFormat (.text written) :=
  p.earliest?_literal hword

/-- A literal that is read is not earlier than itself. -/
theorem constraint_of_literal_rejected {bound : Date} {field : String} {f : Failure}
    (hkind : r.kind = .date) (hmin : r.minDate = some written)
    (hpresent : ¬ r.kind.Absent (.text written))
    (hdate : Inspection.date? p.settings.dateFormat (.text written) = some bound)
    (hbound : p.earliest? written = some bound)
    (h : (p.checker field r).verdict (.text written) = .rejected f) :
    f.constraint = .customRule := by
  have hreading : p.reading? r.kind (.text written) = some (.date bound) := by
    rw [reading?_date hkind, hdate, Option.map_some]
  have hbreaks := breaks_of_rejected hpresent hreading h
  rcases constraint_of_breaks_date hbreaks with hconstraint | hconstraint
  · rw [hconstraint, breaks_minDate_iff hmin hbound] at hbreaks
    exact absurd hbreaks (Date.not_lt.2 bound.le_refl)
  · exact hconstraint

/-- **A literal is judged alike as a bound and as a value**, in every format of dates. Either the
remarks on the field name it, once, no check is about an earliest date, and as a value it is not of
the kind. Or no remark is about an earliest date, there is one check about it and no more, the one
of the date that the literal spells, and as a value it fails by nothing but the date rule. -/
theorem literal_judged_alike (p : Policy) {r : Requirement} (hkind : r.kind = .date)
    {written : String} (hmin : r.minDate = some written) (hsome : written ≠ "")
    (hword : written ≠ "today") (field : String) :
    (OneMore (.shortfall field (.invalidMinDate written)) (p.remarksOn field (.ok r))
        (p.remarksOn field (.ok (r.without .minDate))) ∧
      (∀ check ∈ (p.inspection r).dateChecks, ¬ check.Reports .minDate) ∧
      ∃ f, (p.checker field r).verdict (.text written) = .rejected f ∧ f.constraint = .kind) ∨
    ((∀ value, .shortfall field (.invalidMinDate value) ∉ p.remarksOn field (.ok r)) ∧
      (∃ bound others, Inspection.date? p.settings.dateFormat (.text written) = some bound ∧
        OneMore (.minDate bound written) (p.inspection r).dateChecks others ∧
        ∀ check ∈ others, ¬ check.Reports .minDate) ∧
      ∀ f, (p.checker field r).verdict (.text written) = .rejected f →
        f.constraint = .customRule) := by
  have hpresent : ¬ r.kind.Absent (.text written) := by
    rw [hkind]
    simp [Kind.Absent, hsome]
  cases hdate : Inspection.date? p.settings.dateFormat (.text written) with
  | none =>
    have hlost : p.Unhonoured r .minDate (.invalidMinDate written) :=
      .minDate hkind hmin hword hdate
    refine Or.inl ⟨(oneMore_shortfalls hlost).map _, fun check hmem => ?_, ?_⟩
    · rw [← inspection_without hlost] at hmem
      exact not_reports_minDate rfl hmem
    · have hunread : p.reading? r.kind (.text written) = none := by
        rw [reading?_date hkind, hdate, Option.map_none]
      have hchecks : r.kind.hasChecks = true := by rw [hkind]; rfl
      exact rejected_iff_violated?.2 (violated?_of_unread hchecks hpresent hunread)
  | some bound =>
    have hbound : p.earliest? written = some bound := (earliest?_eq_date? p hword).trans hdate
    refine Or.inr ⟨fun value hmem => ?_, ⟨bound, _, rfl, oneMore_dateChecks hkind hmin hbound,
      fun check => not_reports_minDate rfl⟩, fun f => ?_⟩
    · obtain ⟨part, hpart, heq⟩ := List.mem_map.1 hmem
      cases heq
      obtain ⟨hvalue, hunread⟩ := (invalidMinDate_mem_shortfalls hkind).1 hpart
      rw [hmin] at hvalue
      cases hvalue
      rw [hbound] at hunread
      cases hunread
    · exact constraint_of_literal_rejected hkind hmin hpresent hdate hbound

end Policy

namespace Sample

/-- A policy that writes the months in words. -/
def wordy : Policy := { policy with settings := { dateFormat := "%d %B %Y" } }

/-- A working day from the fourth of July on, which is none itself. -/
def fromHoliday : Requirement where
  kind := .date
  minDate := some " 4 July 2025"
  customRule := some "noWeekendOrHoliday"

end Sample

open Sample in
/-- The fourth of July in words is no date in the standard format; in the format with words it is the
earliest date, and only fails for being a holiday. -/
theorem literal_judged_alike_fromHoliday :
    fromHoliday.kind = .date ∧ fromHoliday.minDate = some " 4 July 2025" ∧
    (.shortfall "day" (.invalidMinDate " 4 July 2025") ∈ policy.remarksOn "day" (.ok fromHoliday) ∧
      ∃ f, (policy.checker "day" fromHoliday).verdict (.text " 4 July 2025") = .rejected f ∧
        f.constraint = .kind) ∧
    ((∀ value, .shortfall "day" (.invalidMinDate value) ∉ wordy.remarksOn "day" (.ok fromHoliday)) ∧
      (∃ bound others, Inspection.date? "%d %B %Y" (.text " 4 July 2025") = some bound ∧
        OneMore (.minDate bound " 4 July 2025") (wordy.inspection fromHoliday).dateChecks others ∧
        ∀ check ∈ others, ¬ check.Reports .minDate) ∧
      ∃ f, (wordy.checker "day" fromHoliday).verdict (.text " 4 July 2025") = .rejected f ∧
        f.constraint = .customRule) := by
  have hempty : " 4 July 2025" ≠ "" := by decide
  have hword : " 4 July 2025" ≠ "today" := by decide
  have hstandard : .shortfall "day" (.invalidMinDate " 4 July 2025") ∈
      policy.remarksOn "day" (.ok fromHoliday) := by decide +kernel
  have hread : wordy.remarksOn "day" (.ok fromHoliday) = [] := by decide +kernel
  refine ⟨rfl, rfl, ⟨hstandard, ?_⟩, ?_⟩
  · rcases Policy.literal_judged_alike policy (r := fromHoliday) rfl rfl hempty hword "day" with
      ⟨-, -, hfails⟩ | ⟨hnone, -⟩
    · exact hfails
    · exact absurd hstandard (hnone _)
  · rcases Policy.literal_judged_alike wordy (r := fromHoliday) rfl rfl hempty hword "day" with
      ⟨hone, -⟩ | ⟨hnone, hcheck, hfails⟩
    · exact absurd hone.perm.length_eq (by rw [hread]; exact Nat.noConfusion)
    · cases hv : (wordy.checker "day" fromHoliday).verdict (.text " 4 July 2025") with
      | accepted => exact absurd (congrArg Verdict.isAccepted hv) (by decide +kernel)
      | rejected f => exact ⟨hnone, hcheck, f, rfl, hfails f hv⟩

end FormCheck
