import FormCheck.Proofs.Acceptance
import FormCheck.Proofs.Digitless
import FormCheck.Proofs.Documents

/-!
# Tightened requirements

A requirement tightens another one of the same kind when it sets every constraint that the other
sets, at least as strictly. It may set more. What it accepts the other one accepts as well.

Both requirements are turned into checkers by `compile_rule` of one compiler.

* `Requirement.Tightens`: the condition, one line for each constraint.
* `Policy.Breaks.of_tightens`: a constraint that is broken stays broken when it is tightened, the
  ones that the policy cannot honour included.
* **`Policy.accepted_of_tightens`**: a tighter requirement never admits more.

An earliest date that is written as the word `today` moves with the current date, so two earliest
dates are compared if they are the same text or both are literal. A literal has digits and the word
has none (`Policy.earliest?_of_parse?`), so no condition on the word is needed.
-/

namespace FormCheck

/-! ## One attribute -/

/-- An attribute that is set in the second requirement is set in the first, by a literal that is at
least as strict. -/
def Requirement.Stricter {α : Type} (stricter : α → α → Prop) (tight loose : Option α) : Prop :=
  ∀ literal ∈ loose, ∃ literal' ∈ tight, stricter literal' literal

theorem Requirement.Stricter.exists_fails {α : Type} {stricter : α → α → Prop}
    {tight loose : Option α} (h : Stricter stricter tight loose) {fails : α → Prop}
    (hfails : ∀ literal' literal, stricter literal' literal → fails literal → fails literal') :
    (∃ literal ∈ loose, fails literal) → ∃ literal' ∈ tight, fails literal' := by
  rintro ⟨literal, hset, hfail⟩
  obtain ⟨literal', hset', hstricter⟩ := h literal hset
  exact ⟨literal', hset', hfails literal' literal hstricter hfail⟩

/-! ## The whole requirement -/

/-- An earliest date is at least as strict as another one: it is the same text, or both are literal
dates and it is not before the other. -/
def Date.NotBefore (format written' written : String) : Prop :=
  written' = written ∨ ∃ bound' bound, Date.parse? format written' = some bound' ∧
    Date.parse? format written = some bound ∧ bound ≤ bound'

/-- **A requirement tightens another one**: both are of one kind, and every constraint of the second
is one of the first, at least as strictly. -/
structure Requirement.Tightens (format : String) (tight loose : Requirement) : Prop where
  kind : tight.kind = loose.kind
  required : loose.required = true → tight.required = true
  minLength : Stricter (fun min' min => min ≤ min') tight.minLength loose.minLength
  maxLength : Stricter (fun max' max => max' ≤ max) tight.maxLength loose.maxLength
  pattern : Stricter (· = ·) tight.pattern loose.pattern
  allowedValues : Stricter (· ⊆ ·) tight.allowedValues loose.allowedValues
  minValue : Stricter (fun min' min => min ≤ min') tight.minValue loose.minValue
  maxValue : Stricter (fun max' max => max' ≤ max) tight.maxValue loose.maxValue
  minDate : Stricter (Date.NotBefore format) tight.minDate loose.minDate
  customRule : Stricter (· = ·) tight.customRule loose.customRule

namespace Policy

variable {p : Policy} {tight loose : Requirement}

/-- A literal date bounds as it is spelled: the word for the current date spells none. -/
theorem earliest?_of_parse? {written : String} {bound : Date}
    (h : Date.parse? p.settings.dateFormat written = some bound) :
    p.earliest? written = some bound := by
  have hdigits : ∀ c ∈ "today".toList, isDigit c = false := by simp [isDigit]
  have hword : written ≠ "today" := by
    rintro rfl
    rw [Date.parse?_eq_none_of_digitless hdigits] at h
    cases h
  rw [earliest?_literal p hword, h]

/-- A date before an earliest date is before every stricter one. -/
theorem before_of_notBefore {written' written : String} {d : Date}
    (h : Date.NotBefore p.settings.dateFormat written' written)
    (hbefore : ∃ bound ∈ p.earliest? written, d < bound) :
    ∃ bound' ∈ p.earliest? written', d < bound' := by
  obtain rfl | ⟨bound', bound, hbound', hbound, hle⟩ := h
  · exact hbefore
  · rw [earliest?_of_parse? hbound] at hbefore
    obtain ⟨_, ⟨⟩, hd⟩ := hbefore
    exact ⟨bound', earliest?_of_parse? hbound', Date.lt_of_lt_of_le hd hle⟩

/-- **A broken constraint stays broken** when it is tightened. -/
theorem Breaks.of_tightens (h : tight.Tightens p.settings.dateFormat loose) {x : Reading}
    {c : Constraint} (hbroken : p.Breaks loose x c) : p.Breaks tight x c := by
  cases x with
  | text s =>
    cases c with
    | minLength =>
      refine h.minLength.exists_fails (fun min' min hle hshort => ?_) hbroken
      exact Nat.lt_of_lt_of_le hshort (UInt64.le_iff_toNat_le.1 hle)
    | maxLength =>
      refine h.maxLength.exists_fails (fun max' max hle hlong => ?_) hbroken
      exact Nat.lt_of_le_of_lt (UInt64.le_iff_toNat_le.1 hle) hlong
    | pattern => exact h.pattern.exists_fails (fun _ _ heq hs => heq ▸ hs) hbroken
    | allowedValues =>
      exact h.allowedValues.exists_fails (fun _ _ hsub hs hmem => hs (hsub hmem)) hbroken
    | _ => exact hbroken
  | number x =>
    cases c with
    | minValue =>
      exact h.minValue.exists_fails (fun _ _ hle hx hle' => hx (Double.le_trans hle hle')) hbroken
    | maxValue =>
      exact h.maxValue.exists_fails (fun _ _ hle hx hle' => hx (Double.le_trans hle' hle)) hbroken
    | _ => exact hbroken
  | date d =>
    cases c with
    | minDate =>
      refine h.minDate.exists_fails (fun _ _ hnotBefore hbefore => ?_) hbroken
      exact exists_earliest?_iff.1 (before_of_notBefore hnotBefore (exists_earliest?_iff.2 hbefore))
    | customRule => exact h.customRule.exists_fails (fun _ _ heq hd => heq ▸ hd) hbroken
    | _ => exact hbroken

theorem Meets.of_tightens (h : tight.Tightens p.settings.dateFormat loose) {v : Json}
    (hv : p.Meets tight v) : p.Meets loose v :=
  hv.of_breaks h.kind h.required fun _ _ hbroken => hbroken.of_tightens h

/-- **A tighter requirement never admits more**: under every policy, what the checker of a
requirement accepts is accepted by the checker of every requirement that it tightens. -/
theorem accepted_of_tightens (p : Policy) {tight loose : Requirement}
    (h : tight.Tightens p.settings.dateFormat loose) (field field' : String) (v : Json)
    (hv : (p.checker field tight).verdict v = .accepted) :
    (p.checker field' loose).verdict v = .accepted :=
  verdict_eq_accepted_iff.2 ((verdict_eq_accepted_iff.1 hv).of_tightens h)

end Policy

namespace Sample

/-- A date in 2025, or none. -/
def dayIn2025 : Requirement where
  kind := .date
  minDate := some "2025-01-01"

/-- A working day from June 2025 on. -/
def workingDay : Requirement where
  kind := .date
  required := true
  minDate := some "2025-06-02"
  customRule := some "noWeekendOrHoliday"

end Sample

open Sample in
/-- A working day in June will do where any day of the year would; a day in January would not do the
other way round. -/
theorem accepted_of_workingDay :
    workingDay.Tightens policy.settings.dateFormat dayIn2025 ∧
    (policy.checker "due" workingDay).verdict (.text "2025-06-03") = .accepted ∧
    (policy.checker "entry" dayIn2025).verdict (.text "2025-06-03") = .accepted ∧
    (policy.checker "entry" dayIn2025).verdict (.text "2025-01-02") = .accepted ∧
    (policy.checker "due" workingDay).verdict (.text "2025-01-02") ≠ .accepted := by
  have htight : workingDay.Tightens policy.settings.dateFormat dayIn2025 := by
    refine ⟨rfl, nofun, nofun, nofun, nofun, nofun, nofun, nofun, ?_, nofun⟩
    rintro written ⟨⟩
    refine ⟨_, rfl, .inr ⟨⟨2025, 6, 2, by decide, by decide⟩, Date.newYear 2025, ?_, ?_, by decide⟩⟩
    · decide +kernel
    · decide +kernel
  have hjune : (policy.checker "due" workingDay).verdict (.text "2025-06-03") = .accepted := by
    decide +kernel
  exact ⟨htight, hjune, Policy.accepted_of_tightens policy htight "due" "entry" _ hjune,
    by decide +kernel, by decide +kernel⟩

end FormCheck
