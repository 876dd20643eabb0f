import FormCheck.Proofs.Judgement

/-!
# Which values are accepted

What a checker accepts, read off the requirement that it was made of, and what a form accepts, read
off the rules of its book.

The checker is that of `compile_rule`, and the requirement the `ResolvedRule` that it is given.

* `Checker.verdict_congr`: a verdict depends on whether there is a value and on its inspection.
* `Policy.verdict_eq_accepted_iff`: a checker accepts the values that meet its requirement
  (`Policy.Meets`). The field for which it answers and the messages play no part.
* `Policy.rejected_iff_violated?`: a value is rejected for the constraint that it violates; of a date
  this is the earliest date exactly if the date breaks it (`Policy.violated?_eq_minDate_iff`).
* `Policy.verdict_form`: a form answers for a field as the checker of what its book asks of the field.
-/

namespace FormCheck

theorem Constraint.mem_all (c : Constraint) : c ∈ all := by cases c <;> decide

/-- A verdict depends on whether there is a value and on what its inspection says. -/
theorem Checker.verdict_congr {c : Checker} {v v' : Json}
    (habsent : c.kind.isAbsent v = c.kind.isAbsent v')
    (hrun : c.inspection.run v = c.inspection.run v') : c.verdict v = c.verdict v' := by
  rw [verdict, verdict, judge, judge, habsent, hrun]

namespace Policy

section

variable (p : Policy) (r : Requirement)

/-- **A value meets a requirement**: it is absent and need not be there, or it is present and stands
for something of the required kind that breaks no constraint. Of a kind without checks every present
value will do. -/
def Meets (v : Json) : Prop :=
  if r.kind.Absent v then r.required = false
  else r.kind.hasChecks = true → ∃ x, p.reading? r.kind v = some x ∧ ∀ c, ¬ p.Breaks r x c

variable {p r}

theorem violated?_eq_none_iff {v : Json} : p.violated? r v = none ↔ p.Meets r v := by
  unfold violated? Meets
  by_cases ha : r.kind.Absent v
  · rw [if_pos ha, if_pos ha]
    cases r.required <;> simp
  rw [if_neg ha, if_neg ha]
  by_cases hk : r.kind.hasChecks = true
  · rw [if_pos hk]
    cases p.reading? r.kind v with
    | none => simp [hk]
    | some x =>
      rw [List.find?_eq_none]
      simp [hk, Constraint.mem_all]
  · rw [if_neg hk]
    exact iff_of_true rfl fun h => absurd h hk

/-- **A checker accepts the values that meet the requirement**, and no others. -/
theorem verdict_eq_accepted_iff {field : String} {v : Json} :
    (p.checker field r).verdict v = .accepted ↔ p.Meets r v := by
  rw [← violated?_eq_none_iff, ← Verdict.failure?_eq_none_iff, Checker.verdict,
    Verdict.failure?_mapFailure, Option.map_eq_none_iff, failure?_judge]
  cases h : p.violated? r v with
  | none => simp
  | some c =>
    obtain ⟨f, hf, -⟩ := failureOf?_of_violated? field h
    simp [hf]

/-- The failure of a rejected value is one of the constraint that it violates. -/
theorem violated?_of_rejected {field : String} {v : Json} {f : Failure}
    (h : (p.checker field r).verdict v = .rejected f) : p.violated? r v = some f.constraint := by
  obtain ⟨d, hjudge, rfl⟩ := Verdict.mapFailure_eq_rejected_iff.1 h
  rw [Checker.constraint_finish]
  exact (violated?_of_judge hjudge).1

/-- A value that is present, stands for something and is rejected all the same breaks the constraint
of the failure. -/
theorem breaks_of_rejected {field : String} {v : Json} {x : Reading} {f : Failure}
    (hpresent : ¬ r.kind.Absent v) (hx : p.reading? r.kind v = some x)
    (h : (p.checker field r).verdict v = .rejected f) : p.Breaks r x f.constraint := by
  have hviolated := violated?_of_rejected h
  unfold violated? at hviolated
  rw [if_neg hpresent, hx] at hviolated
  split at hviolated
  · have hbroken := List.find?_some hviolated
    exact of_decide_eq_true hbroken
  · cases hviolated

/-- **A violated constraint is the one of the failure**: a value is rejected for a constraint exactly
if that is the constraint that it violates. -/
theorem rejected_iff_violated? {field : String} {v : Json} {c : Constraint} :
    (∃ f, (p.checker field r).verdict v = .rejected f ∧ f.constraint = c) ↔
      p.violated? r v = some c := by
  constructor
  · rintro ⟨f, hf, rfl⟩
    exact violated?_of_rejected hf
  · intro hviolated
    cases hv : (p.checker field r).verdict v with
    | accepted =>
      rw [violated?_eq_none_iff.2 (verdict_eq_accepted_iff.1 hv)] at hviolated
      cases hviolated
    | rejected f =>
      rw [violated?_of_rejected hv] at hviolated
      exact ⟨f, rfl, Option.some.inj hviolated⟩

theorem Meets.of_breaks {r r' : Requirement} (hkind : r.kind = r'.kind)
    (hrequired : r'.required = true → r.required = true)
    (hbreaks : ∀ x c, p.Breaks r' x c → p.Breaks r x c) {v : Json} (hv : p.Meets r v) :
    p.Meets r' v := by
  unfold Meets at hv ⊢
  rw [hkind] at hv
  split
  next habsent =>
    rw [if_pos habsent] at hv
    cases hrequired' : r'.required with
    | false => rfl
    | true => rw [hrequired hrequired'] at hv; cases hv
  next hpresent =>
    rw [if_neg hpresent] at hv
    intro hchecks
    obtain ⟨x, hx, hmeets⟩ := hv hchecks
    exact ⟨x, hx, fun c hbroken => hmeets c (hbreaks x c hbroken)⟩

/-- A present value that stands for nothing is not of the kind. -/
theorem violated?_of_unread {v : Json} (hchecks : r.kind.hasChecks = true)
    (hpresent : ¬ r.kind.Absent v) (hunread : p.reading? r.kind v = none) :
    p.violated? r v = some .kind := by
  unfold violated?
  rw [if_neg hpresent, if_pos hchecks, hunread]

/-- A value that violates more than presence and the kind is present, stands for something and breaks
the constraint. -/
theorem breaks_of_violated? {v : Json} {c : Constraint} (h : p.violated? r v = some c)
    (hrequired : c ≠ .required) (hkind : c ≠ .kind) :
    r.kind.hasChecks = true ∧ ¬ r.kind.Absent v ∧
      ∃ x, p.reading? r.kind v = some x ∧ p.Breaks r x c := by
  unfold violated? at h
  split at h
  · split at h
    · exact absurd (Option.some.inj h).symm hrequired
    · cases h
  next hpresent =>
    split at h
    next hchecks =>
      split at h
      · exact absurd (Option.some.inj h).symm hkind
      next x hx => exact ⟨hchecks, hpresent, x, hx, of_decide_eq_true (List.find?_some h :)⟩
    · cases h

/-- **The first broken constraint counts**: a present value that stands for something violates the
constraint that it breaks if it breaks none before it. -/
theorem violated?_eq_some_iff {v : Json} {x : Reading} {c : Constraint}
    {before after : List Constraint} (hchecks : r.kind.hasChecks = true)
    (hpresent : ¬ r.kind.Absent v) (hx : p.reading? r.kind v = some x)
    (hall : Constraint.all = before ++ c :: after) :
    p.violated? r v = some c ↔ p.Breaks r x c ∧ ∀ d ∈ before, ¬ p.Breaks r x d := by
  have hnew : c ∉ before := by
    have hnodup : Constraint.all.Nodup := by decide
    rw [hall] at hnodup
    exact fun h => (List.nodup_append.1 hnodup).2.2 c h c List.mem_cons_self rfl
  have hfind : p.violated? r v = (before ++ c :: after).find? fun d => decide (p.Breaks r x d) := by
    unfold violated?
    rw [if_neg hpresent, if_pos hchecks, hx, hall]
  rw [hfind, List.find?_append]
  constructor
  · intro h
    have hbroken := List.find?_some (List.find?_append ▸ h)
    refine ⟨of_decide_eq_true hbroken, fun d hd hbreaks => ?_⟩
    cases hbefore : before.find? fun d => decide (p.Breaks r x d) with
    | none => exact absurd (decide_eq_true hbreaks) (List.find?_eq_none.1 hbefore d hd)
    | some e =>
      rw [hbefore, Option.some_or, Option.some.injEq] at h
      exact hnew (h ▸ List.mem_of_find?_eq_some hbefore)
  · rintro ⟨hbroken, hnone⟩
    have hbefore : before.find? (fun d => decide (p.Breaks r x d)) = none :=
      List.find?_eq_none.2 fun d hd => by simpa using hnone d hd
    rw [hbefore, Option.none_or]
    exact List.find?_cons_of_pos (decide_eq_true hbroken)

theorem reading?_number (hkind : r.kind = .number) (v : Json) :
    p.reading? r.kind v = (Inspection.number? v).map .number := by
  rw [hkind]
  rfl

/-! ### Dates -/

theorem reading?_date (hkind : r.kind = .date) (v : Json) :
    p.reading? r.kind v = (Inspection.date? p.settings.dateFormat v).map .date := by
  rw [hkind]
  rfl

/-- Of a date only the earliest date and the date rule can be broken. -/
theorem constraint_of_breaks_date {d : Date} {c : Constraint} (h : p.Breaks r (.date d) c) :
    c = .minDate ∨ c = .customRule := by
  cases c with
  | minDate => exact .inl rfl
  | customRule => exact .inr rfl
  | _ => exact absurd h id

/-- With an earliest date that the policy can honour, a date is too early if it lies before it. -/
theorem breaks_minDate_iff {written : String} {bound : Date} (hmin : r.minDate = some written)
    (hbound : p.earliest? written = some bound) (d : Date) :
    p.Breaks r (.date d) .minDate ↔ d < bound := by
  unfold Breaks
  simp only [← exists_earliest?_iff]
  simp only [hmin, Option.mem_def, Option.some.injEq, exists_eq_left', hbound]

/-- **The earliest date counts first**: a present value that spells a date is rejected for the
earliest date exactly if it breaks it. -/
theorem violated?_eq_minDate_iff {v : Json} {d : Date} (hkind : r.kind = .date)
    (hpresent : ¬ r.kind.Absent v) (hd : Inspection.date? p.settings.dateFormat v = some d) :
    p.violated? r v = some .minDate ↔ p.Breaks r (.date d) .minDate := by
  have hreading : p.reading? r.kind v = some (.date d) := by
    rw [reading?_date hkind, hd, Option.map_some]
  have hchecks : r.kind.hasChecks = true := by
    rw [hkind]
    rfl
  have hall : Constraint.all = Constraint.all.take 8 ++ .minDate :: [.customRule] := rfl
  rw [violated?_eq_some_iff hchecks hpresent hreading hall]
  refine and_iff_left_of_imp fun _ c hc hbroken => ?_
  obtain rfl | rfl := constraint_of_breaks_date hbroken
  · exact absurd hc (by decide)
  · exact absurd hc (by decide)

/-- **A requirement of dates** is met by the texts that spell a date which breaks neither of the two
constraints of dates. -/
theorem meets_iff_of_date {v : Json} (hkind : r.kind = .date) (hpresent : ¬ r.kind.Absent v) :
    p.Meets r v ↔ ∃ d, Inspection.date? p.settings.dateFormat v = some d ∧
      ¬ p.Breaks r (.date d) .minDate ∧ ¬ p.Breaks r (.date d) .customRule := by
  have hbreaks : ∀ d, (∀ c, ¬ p.Breaks r (.date d) c) ↔
      ¬ p.Breaks r (.date d) .minDate ∧ ¬ p.Breaks r (.date d) .customRule := by
    refine fun d => ⟨fun h => ⟨h _, h _⟩, fun ⟨hmin, hrule⟩ c hbroken => ?_⟩
    obtain rfl | rfl := constraint_of_breaks_date hbroken
    · exact hmin hbroken
    · exact hrule hbroken
  unfold Meets
  rw [if_neg hpresent, hkind]
  simp only [Kind.hasChecks, forall_const, reading?, Option.map_eq_some_iff]
  constructor
  · rintro ⟨x, ⟨d, hd, rfl⟩, hx⟩
    exact ⟨d, hd, (hbreaks d).1 hx⟩
  · rintro ⟨d, hd, hx⟩
    exact ⟨_, ⟨d, hd, rfl⟩, (hbreaks d).2 hx⟩

end

variable {p : Policy} {b : RuleBook} {field : String} {rule : Rule} {r : Requirement}

theorem get?_form_of_require (hrule : b.fields.get? field = some rule)
    (hr : b.require field rule = .ok r) : (p.form b).get? field = some (p.checker field r) := by
  rw [get?_form, hrule, Option.bind_some, hr]
  rfl

theorem verdict_form (hrule : b.fields.get? field = some rule) (hr : b.require field rule = .ok r)
    (v : Json) : (p.form b).verdict field v = (p.checker field r).verdict v := by
  unfold Form.verdict
  rw [get?_form_of_require hrule hr]

end Policy

end FormCheck
