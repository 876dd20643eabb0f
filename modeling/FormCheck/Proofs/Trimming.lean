import FormCheck.Proofs.Acceptance
import FormCheck.Proofs.Digitless
import FormCheck.Proofs.Documents
import Mathlib.Data.List.TakeWhile

/-!
# Blanks around a value

Blanks are taken away in four places: when a text is asked whether it is there at all, before the
checks of a text, and in the readers of numbers and of dates. Trimming twice is trimming once, so each
of the four answers for a text as it does for the trimmed one. Only numbers and dates differ in the
first place: blanks are a value of the wrong kind there, while the empty text is none.

The places are `is_absent`, the `check` of a text strategy, `coerce_number` and `parse_date`.

* `Text.trim_eq_empty_iff`, `Text.isBlankOnly_trim`: which texts are trimmed to nothing.
* `Inspection.run_trim`, `Kind.isAbsent_trim`: the places one by one.
* **`Policy.verdict_trim`**: for which requirements blanks around a text make no difference, and for
  which texts in the case of numbers and dates.
-/

namespace FormCheck

/-! ## Texts of blanks -/

namespace Text

theorem trimmed_eq_nil_iff {cs : List Char} : trimmed cs = [] ↔ ∀ c ∈ cs, isBlank c = true := by
  have hright : trimmed cs = [] ↔ ∀ c ∈ trimmedLeft cs, isBlank c = true := by
    rw [trimmed, trimmedRight, List.reverse_eq_nil_iff, List.dropWhile_eq_nil_iff]
    simp only [List.mem_reverse]
  rw [hright]
  constructor
  · intro h
    rcases head?_trimmedLeft cs with hnil | hhead
    · exact List.dropWhile_eq_nil_iff.1 hnil
    · obtain ⟨c, hc, hblank⟩ := (Option.any_eq_true _ _).1 hhead
      rw [h c (List.mem_of_mem_head? hc)] at hblank
      cases hblank
  · exact fun h c hc => h c (trimmedLeft_subset cs hc)

theorem isBlankOnly_iff {s : String} : isBlankOnly s = true ↔ trimmed s.toList = [] := by
  rw [isBlankOnly, List.all_eq_true, trimmed_eq_nil_iff]

theorem isBlankOnly_trim (s : String) : isBlankOnly (trim s) = isBlankOnly s := by
  rw [Bool.eq_iff_iff, isBlankOnly_iff, isBlankOnly_iff, toList_trim, trimmed_trimmed]

theorem trim_eq_empty_iff {s : String} : trim s = "" ↔ isBlankOnly s = true := by
  rw [isBlankOnly_iff, ← toList_trim, String.toList_eq_nil_iff]

end Text

/-! ## Values -/

/-- Only for numbers and dates a text of blanks is a value, and the empty text is none. -/
theorem Kind.isAbsent_trim {k : Kind} {s : String}
    (h : k = .number ∨ k = .date → Text.isBlankOnly s = false) :
    k.isAbsent (.text (Text.trim s)) = k.isAbsent (.text s) := by
  have hsome : Text.isBlankOnly s = false → (Text.trim s).isEmpty = s.isEmpty := by
    intro hblank
    have htrim : Text.trim s ≠ "" := fun hempty => by
      rw [Text.trim_eq_empty_iff.1 hempty] at hblank
      cases hblank
    have hs : s ≠ "" := by
      rintro rfl
      cases hblank
    rw [Bool.eq_iff_iff, String.isEmpty_iff, String.isEmpty_iff]
    exact iff_of_false htrim hs
  cases k with
  | number => exact hsome (h (.inl rfl))
  | date => exact hsome (h (.inr rfl))
  | text => exact Text.isBlankOnly_trim s
  | boolean => exact Text.isBlankOnly_trim s
  | other name unknown => exact Text.isBlankOnly_trim s

theorem Date.parse?_trim (format s : String) :
    Date.parse? format (Text.trim s) = Date.parse? format s := by
  unfold Date.parse?
  rw [Text.toList_trim, Text.trimmed_trimmed]

namespace Inspection

/-- **A text is inspected as the trimmed one**, unless it is to be checked with its blanks. -/
theorem run_trim (i : Inspection) (hi : ∀ checks, i ≠ .text false checks) (s : String) :
    i.run (.text (Text.trim s)) = i.run (.text s) := by
  cases i with
  | text trimmed checks =>
    cases trimmed with
    | false => exact absurd rfl (hi checks)
    | true =>
      show checks.run (Text.trim (Text.trim s)) = checks.run (Text.trim s)
      rw [Text.trim_trim]
  | number checks =>
    show runOn .number checks (Double.ofText? (Text.trimmed (Text.trim s).toList)) =
      runOn .number checks (Double.ofText? (Text.trimmed s.toList))
    rw [Text.toList_trim, Text.trimmed_trimmed]
  | date format checks =>
    show runOn .date checks (Date.parse? format (Text.trim s)) =
      runOn .date checks (Date.parse? format s)
    rw [Date.parse?_trim]
  | presence => rfl

end Inspection

namespace Policy

variable {p : Policy} {r : Requirement} {s : String}

/-- Texts are checked with their blanks only if the settings say so. -/
theorem inspection_ne_text_false (h : r.kind = .text → p.settings.trimStrings = true)
    (checks : Chain String) : p.inspection r ≠ .text false checks := by
  unfold inspection
  cases hkind : r.kind with
  | text =>
    rw [h hkind]
    rintro ⟨⟩
  | _ => nofun

/-- Blanks are neither a number nor a date. -/
theorem reading?_of_blank (hkind : r.kind = .number ∨ r.kind = .date)
    (hblank : Text.isBlankOnly s = true) : p.reading? r.kind (.text s) = none := by
  have hnil : Text.trimmed s.toList = [] := Text.isBlankOnly_iff.1 hblank
  rcases hkind with hkind | hkind
  · rw [reading?_number hkind]
    show (Double.ofText? (Text.trimmed s.toList)).map Reading.number = none
    rw [hnil]
    rfl
  · rw [reading?_date hkind]
    show (Date.parse? p.settings.dateFormat s).map Reading.date = none
    rw [← Date.parse?_trim, Text.trim_eq_empty_iff.2 hblank,
      Date.parse?_eq_none_of_digitless (by simp)]
    rfl

/-- A text that is as absent as the trimmed one is judged like it. -/
theorem verdict_trim_of_isAbsent {field : String}
    (htext : r.kind = .text → p.settings.trimStrings = true)
    (habsent : r.kind.isAbsent (.text (Text.trim s)) = r.kind.isAbsent (.text s)) :
    (p.checker field r).verdict (.text (Text.trim s)) = (p.checker field r).verdict (.text s) := by
  have hrun := (p.inspection r).run_trim (inspection_ne_text_false htext) s
  exact Checker.verdict_congr (c := p.checker field r) habsent hrun

/-- Blanks for a number or a date are a value of the wrong kind, and the empty text is none. -/
theorem verdict_trim_ne_of_blank {field : String} (hkind : r.kind = .number ∨ r.kind = .date)
    (hblank : Text.isBlankOnly s = true) (hsome : s ≠ "") :
    (p.checker field r).verdict (.text (Text.trim s)) ≠ (p.checker field r).verdict (.text s) := by
  have hchecks : r.kind.hasChecks = true := by
    rcases hkind with h | h <;> rw [h] <;> rfl
  have hpresent : ¬ r.kind.Absent (.text s) := by
    simp [Kind.Absent, hkind, hsome]
  have habsent : r.kind.Absent (.text "") := by
    simp [Kind.Absent]
  intro heq
  rw [Text.trim_eq_empty_iff.2 hblank] at heq
  obtain ⟨f, hf, hconstraint⟩ := rejected_iff_violated?.2
    (violated?_of_unread hchecks hpresent (reading?_of_blank hkind hblank))
  have hviolated := violated?_of_rejected (heq.trans hf)
  rw [hconstraint, violated?, if_pos habsent] at hviolated
  split at hviolated
  · cases hviolated
  · cases hviolated

/-- **Blanks around a text make no difference.** A text and the trimmed text get the same verdict,
with the same message and the same params: if texts are asked for and are trimmed before they are
checked; if a number or a date is asked for, exactly for the texts that are not made of blanks only;
and for kinds without checks. -/
theorem verdict_trim (p : Policy) (r : Requirement) (field s : String) :
    (r.kind = .text → p.settings.trimStrings = true →
      (p.checker field r).verdict (.text s) = (p.checker field r).verdict (.text (Text.trim s))) ∧
    (r.kind = .number ∨ r.kind = .date →
      ((p.checker field r).verdict (.text s) = (p.checker field r).verdict (.text (Text.trim s)) ↔
        (Text.isBlankOnly s = true → s = ""))) ∧
    (r.kind.hasChecks = false →
      (p.checker field r).verdict (.text s) = (p.checker field r).verdict (.text (Text.trim s))) := by
  refine ⟨fun hkind htrims => ?_, fun hkind => ⟨fun heq hblank => ?_, fun hblank => ?_⟩,
    fun hchecks => ?_⟩
  · refine (verdict_trim_of_isAbsent (fun _ => htrims) (Kind.isAbsent_trim ?_)).symm
    rw [hkind]
    nofun
  · by_contra hsome
    exact verdict_trim_ne_of_blank hkind hblank hsome heq.symm
  · have htext : r.kind = .text → p.settings.trimStrings = true := fun htext => by
      rw [htext] at hkind
      rcases hkind with h | h <;> cases h
    cases hs : Text.isBlankOnly s with
    | true => rw [hblank hs]; rfl
    | false => exact (verdict_trim_of_isAbsent htext (Kind.isAbsent_trim fun _ => hs)).symm
  · refine (verdict_trim_of_isAbsent (fun hkind => ?_) (Kind.isAbsent_trim fun hkind => ?_)).symm
    · rw [hkind] at hchecks
      cases hchecks
    · rcases hkind with h | h <;> rw [h] at hchecks <;> cases hchecks

end Policy

namespace Sample

/-- An airport by its three letters. -/
def airport : Requirement where
  kind := .text
  minLength := some 3
  maxLength := some 3

/-- An amount of money that may be missing. -/
def deposit : Requirement where
  kind := .number
  minValue := some (.zero false)

end Sample

open Sample in
/-- Blanks of three kinds around an airport, around a deposit and around the answer to a question; and a
deposit made of blanks, which is not a missing one. -/
theorem verdict_trim_airport_deposit :
    airport.kind = .text ∧ policy.settings.trimStrings = true ∧
    (policy.checker "airport" airport).verdict (.text "\u2003abc\n") =
      (policy.checker "airport" airport).verdict (.text "abc") ∧
    deposit.kind = .number ∧ Text.isBlankOnly "\u00a0-5\t" = false ∧
    (policy.checker "deposit" deposit).verdict (.text "\u00a0-5\t") =
      (policy.checker "deposit" deposit).verdict (.text "-5") ∧
    Text.isBlankOnly "\u3000" = true ∧
    (policy.checker "deposit" deposit).verdict (.text "\u3000") ≠
      (policy.checker "deposit" deposit).verdict (.text "") ∧
    Kind.boolean.hasChecks = false ∧
    (policy.checker "agreed" { kind := .boolean, required := true }).verdict (.text " yes ") =
      (policy.checker "agreed" { kind := .boolean, required := true }).verdict (.text "yes") := by
  have habc : Text.trim "\u2003abc\n" = "abc" := by decide +kernel
  have hfive : Text.trim "\u00a0-5\t" = "-5" := by decide +kernel
  have hnothing : Text.trim "\u3000" = "" := by decide +kernel
  have hyes : Text.trim " yes " = "yes" := by decide +kernel
  have hdebt : Text.isBlankOnly "\u00a0-5\t" = false := by decide +kernel
  have hblank : Text.isBlankOnly "\u3000" = true := by decide +kernel
  obtain ⟨htext, -⟩ := Policy.verdict_trim policy airport "airport" "\u2003abc\n"
  obtain ⟨-, hnumber, -⟩ := Policy.verdict_trim policy deposit "deposit" "\u00a0-5\t"
  obtain ⟨-, hmissing, -⟩ := Policy.verdict_trim policy deposit "deposit" "\u3000"
  obtain ⟨-, -, hanswer⟩ :=
    Policy.verdict_trim policy { kind := .boolean, required := true } "agreed" " yes "
  refine ⟨rfl, rfl, habc ▸ htext rfl rfl, rfl, hdebt, ?_, hblank, fun heq => ?_, rfl,
    hyes ▸ hanswer rfl⟩
  · exact hfive ▸ (hnumber (.inl rfl)).2 fun h => Bool.noConfusion (hdebt.symm.trans h)
  · rw [hnothing] at hmissing
    exact absurd ((hmissing (.inl rfl)).1 heq hblank) (by decide)

end FormCheck
