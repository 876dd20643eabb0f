import FormCheck.Proofs.Documents

/-!
# What cannot be honoured is as good as not asked

A requirement may ask for something that no check can be made of: a pattern that is no regular
expression, an earliest date that is none, a date rule that nobody knows. The policy does without it
and says so. Here the requirement is compared with the one that does not ask for it at all.

`Requirement.without` unsets one attribute of a `ResolvedRule`; the shortfalls are the diagnostics
`InvalidPattern`, `InvalidMinDate` and `UnknownCustomRule`.

* `Policy.Unhonoured` lists what cannot be honoured, each with the shortfall that names it.
* `Policy.Unhonoured.oneMore_clauses`: among the clauses of the requirement stands one more than
  without the constraint, and it is no check.
* `Policy.checker_without`, `Policy.oneMore_shortfalls`: the checker is the same without the
  constraint, and one shortfall is gone.
* `Policy.Unhonoured.without_of_ne`: what else cannot be honoured still cannot, so that one may leave
  out one constraint after the other (`Policy.checker_withoutAll`, `Policy.perm_shortfalls`).
* **`Policy.unhonoured_as_unset`**: the answers and the remarks for a field, with one such constraint
  left out, and with several.
-/

namespace FormCheck

/-! ## One more entry -/

/-- **One list is the other with one more entry** somewhere in it. -/
def OneMore {α : Type} (x : α) (more fewer : List α) : Prop :=
  ∃ before after, more = before ++ x :: after ∧ fewer = before ++ after

namespace OneMore

variable {α β : Type} {x : α} {more fewer : List α}

theorem append_right (h : OneMore x more fewer) (rest : List α) :
    OneMore x (more ++ rest) (fewer ++ rest) := by
  obtain ⟨before, after, rfl, rfl⟩ := h
  exact ⟨before, after ++ rest, by simp, by simp⟩

theorem map (h : OneMore x more fewer) (f : α → β) : OneMore (f x) (more.map f) (fewer.map f) := by
  obtain ⟨before, after, rfl, rfl⟩ := h
  exact ⟨before.map f, after.map f, by simp, by simp⟩

theorem filterMap_of_none (h : OneMore x more fewer) {f : α → Option β} (hx : f x = none) :
    more.filterMap f = fewer.filterMap f := by
  obtain ⟨before, after, rfl, rfl⟩ := h
  rw [List.filterMap_append, List.filterMap_cons_none hx, List.filterMap_append]

theorem filterMap_of_some (h : OneMore x more fewer) {f : α → Option β} {y : β}
    (hx : f x = some y) : OneMore y (more.filterMap f) (fewer.filterMap f) := by
  obtain ⟨before, after, rfl, rfl⟩ := h
  refine ⟨before.filterMap f, after.filterMap f, ?_, List.filterMap_append⟩
  rw [List.filterMap_append, List.filterMap_cons_some hx]

theorem perm (h : OneMore x more fewer) : more.Perm (x :: fewer) := by
  obtain ⟨before, after, rfl, rfl⟩ := h
  exact List.perm_middle

theorem sublist (h : OneMore x more fewer) : fewer.Sublist more := by
  obtain ⟨before, after, rfl, rfl⟩ := h
  exact (List.Sublist.refl before).append (List.sublist_cons_self x after)

end OneMore

/-! ## Leaving out a constraint -/

namespace Requirement

/-- **The requirement without one constraint.** Its kind stays. -/
def without (r : Requirement) : Constraint → Requirement
  | .required => { r with required := false }
  | .kind => r
  | .minLength => { r with minLength := none }
  | .maxLength => { r with maxLength := none }
  | .pattern => { r with pattern := none }
  | .allowedValues => { r with allowedValues := none }
  | .minValue => { r with minValue := none }
  | .maxValue => { r with maxValue := none }
  | .minDate => { r with minDate := none }
  | .customRule => { r with customRule := none }

/-- The requirement without some constraints, left out one after the other. -/
def withoutAll (r : Requirement) (cs : List Constraint) : Requirement := cs.foldl without r

theorem kind_without (r : Requirement) (c : Constraint) : (r.without c).kind = r.kind := by
  cases c <;> rfl

theorem messages_without (r : Requirement) (c : Constraint) :
    (r.without c).messages = r.messages := by
  cases c <;> rfl

end Requirement

namespace Policy

/-- **A constraint that is set and cannot be honoured**, and the shortfall that names it. -/
inductive Unhonoured (p : Policy) (r : Requirement) : Constraint → Shortfall → Prop
  /-- A pattern of texts that is no regular expression. -/
  | pattern {source : String} (kind : r.kind = .text) (set : r.pattern = some source)
      (invalid : Pattern.compile? source = none) :
      Unhonoured p r .pattern (.invalidPattern source)
  /-- An earliest date that is neither the word `today` nor written in the format of dates. -/
  | minDate {written : String} (kind : r.kind = .date) (set : r.minDate = some written)
      (word : written ≠ "today") (unread : Date.parse? p.settings.dateFormat written = none) :
      Unhonoured p r .minDate (.invalidMinDate written)
  /-- A date rule that is not known. -/
  | customRule {name : String} (kind : r.kind = .date) (set : r.customRule = some name)
      (unknown : p.rules.get? name = none) :
      Unhonoured p r .customRule (.unknownCustomRule name)

variable {p : Policy} {r : Requirement} {c : Constraint} {part : Shortfall}

/-! ## Clauses -/

/-- A clause that is no check makes no difference to the checks. -/
theorem checksOf_of_oneMore {α : Type} {more fewer : List (Clause α)}
    (h : OneMore (.error part) more fewer) : checksOf more = checksOf fewer :=
  congrArg Chain.mk (h.filterMap_of_none rfl)

theorem shortfallsOf_of_oneMore {α : Type} {more fewer : List (Clause α)}
    (h : OneMore (.error part) more fewer) : OneMore part (shortfallsOf more) (shortfallsOf fewer) :=
  h.filterMap_of_some rfl

theorem oneMore_textClauses {source : String} (set : r.pattern = some source)
    (invalid : Pattern.compile? source = none) :
    OneMore (.error (.invalidPattern source)) (p.textClauses r)
      (p.textClauses (r.without .pattern)) := by
  have hclause : patternClause source = .error (.invalidPattern source) := by
    rw [patternClause, invalid]
  refine ⟨(r.minLength.map fun min => .ok (.minLength p.settings.lengthMode min)).toList ++
    (r.maxLength.map fun max => .ok (.maxLength p.settings.lengthMode max)).toList,
    (r.allowedValues.map fun allowed => .ok (.allowedValues allowed)).toList, ?_, ?_⟩
  · simp [textClauses, set, hclause]
  · simp [textClauses, Requirement.without]

theorem minDateClause_of_some {written : String} {bound : Date}
    (hbound : p.earliest? written = some bound) :
    p.minDateClause written = .ok (.minDate bound written) := by
  rw [minDateClause, hbound]

theorem minDateClause_of_none {written : String} (hnone : p.earliest? written = none) :
    p.minDateClause written = .error (.invalidMinDate written) := by
  rw [minDateClause, hnone]

theorem oneMore_dateClauses_minDate {written : String} (set : r.minDate = some written) :
    OneMore (p.minDateClause written) (p.dateClauses r) (p.dateClauses (r.without .minDate)) := by
  refine ⟨[], (r.customRule.map p.dateRuleClause).toList, ?_, ?_⟩
  · simp [dateClauses, set]
  · simp [dateClauses, Requirement.without]

theorem oneMore_dateClauses_customRule {name : String} (set : r.customRule = some name)
    (unknown : p.rules.get? name = none) :
    OneMore (.error (.unknownCustomRule name)) (p.dateClauses r)
      (p.dateClauses (r.without .customRule)) := by
  have hclause : p.dateRuleClause name = .error (.unknownCustomRule name) := by
    rw [dateRuleClause, unknown]
  refine ⟨(r.minDate.map p.minDateClause).toList, [], ?_, ?_⟩
  · simp [dateClauses, set, hclause]
  · simp [dateClauses, Requirement.without]

/-- **Among the clauses of the kind stands one more** than without the constraint, and it is no
check. -/
theorem Unhonoured.oneMore_clauses (h : p.Unhonoured r c part) :
    (r.kind = .text ∧ OneMore (.error part) (p.textClauses r) (p.textClauses (r.without c))) ∨
      (r.kind = .date ∧ OneMore (.error part) (p.dateClauses r) (p.dateClauses (r.without c))) := by
  cases h with
  | pattern kind set invalid => exact Or.inl ⟨kind, oneMore_textClauses set invalid⟩
  | minDate kind set word unread =>
    have hone := oneMore_dateClauses_minDate (p := p) set
    rw [minDateClause_of_none ((earliest?_literal p word).trans unread)] at hone
    exact Or.inr ⟨kind, hone⟩
  | customRule kind set unknown =>
    exact Or.inr ⟨kind, oneMore_dateClauses_customRule set unknown⟩

/-! ## One constraint -/

/-- Values are inspected alike without a constraint that cannot be honoured. -/
theorem inspection_without (h : p.Unhonoured r c part) :
    p.inspection (r.without c) = p.inspection r := by
  unfold inspection
  rw [Requirement.kind_without]
  rcases h.oneMore_clauses with ⟨hkind, hone⟩ | ⟨hkind, hone⟩
  · rw [hkind, checksOf_of_oneMore hone]
  · rw [hkind, checksOf_of_oneMore hone]

/-- **Without a constraint that cannot be honoured the checker is the same.** -/
theorem checker_without (h : p.Unhonoured r c part) (field : String) :
    p.checker field (r.without c) = p.checker field r := by
  have hinspection := inspection_without h
  unfold checker
  rw [hinspection]
  cases h <;> rfl

theorem oneMore_constraintShortfalls (h : p.Unhonoured r c part) :
    OneMore part (p.constraintShortfalls r) (p.constraintShortfalls (r.without c)) := by
  unfold constraintShortfalls
  rw [Requirement.kind_without]
  rcases h.oneMore_clauses with ⟨hkind, hone⟩ | ⟨hkind, hone⟩
  · rw [hkind]
    exact shortfallsOf_of_oneMore hone
  · rw [hkind]
    exact shortfallsOf_of_oneMore hone

/-- **Without a constraint that cannot be honoured one shortfall is gone**, the one that names it. -/
theorem oneMore_shortfalls (h : p.Unhonoured r c part) :
    OneMore part (p.shortfalls r) (p.shortfalls (r.without c)) := by
  unfold shortfalls
  rw [Requirement.messages_without]
  exact (oneMore_constraintShortfalls h).append_right _

/-! ## Several constraints -/

/-- What cannot be honoured still cannot when another constraint is left out. -/
theorem Unhonoured.without_of_ne (h : p.Unhonoured r c part) {other : Constraint}
    (hne : other ≠ c) : p.Unhonoured (r.without other) c part := by
  cases h with
  | pattern kind set invalid =>
    cases other with
    | pattern => exact absurd rfl hne
    | _ => exact .pattern kind set invalid
  | minDate kind set word unread =>
    cases other with
    | minDate => exact absurd rfl hne
    | _ => exact .minDate kind set word unread
  | customRule kind set unknown =>
    cases other with
    | customRule => exact absurd rfl hne
    | _ => exact .customRule kind set unknown

variable {ds : List (Constraint × Shortfall)}

/-- After one of some constraints is left out, the others still cannot be honoured. -/
theorem unhonoured_rest {d : Constraint × Shortfall} (distinct : ((d :: ds).map Prod.fst).Nodup)
    (h : ∀ e ∈ d :: ds, p.Unhonoured r e.1 e.2) :
    ∀ e ∈ ds, p.Unhonoured (r.without d.1) e.1 e.2 := by
  intro e he
  rw [List.map_cons, List.nodup_cons] at distinct
  refine (h e (List.mem_cons_of_mem d he)).without_of_ne fun heq => distinct.1 ?_
  exact heq ▸ List.mem_map_of_mem he

/-- Left out one after the other, constraints that cannot be honoured leave the checker as it is. -/
theorem checker_withoutAll (distinct : (ds.map Prod.fst).Nodup)
    (h : ∀ d ∈ ds, p.Unhonoured r d.1 d.2) (field : String) :
    p.checker field (r.withoutAll (ds.map Prod.fst)) = p.checker field r := by
  induction ds generalizing r with
  | nil => rfl
  | cons d rest ih =>
    have hrest := ih (List.nodup_cons.1 distinct).2 (unhonoured_rest distinct h)
    exact hrest.trans (checker_without (h d List.mem_cons_self) field)

/-- Each of them takes one shortfall with it, and the others keep their order. -/
theorem perm_shortfalls (distinct : (ds.map Prod.fst).Nodup)
    (h : ∀ d ∈ ds, p.Unhonoured r d.1 d.2) :
    (p.shortfalls r).Perm
        (ds.map Prod.snd ++ p.shortfalls (r.withoutAll (ds.map Prod.fst))) ∧
      (p.shortfalls (r.withoutAll (ds.map Prod.fst))).Sublist (p.shortfalls r) := by
  induction ds generalizing r with
  | nil => exact ⟨List.Perm.refl _, List.Sublist.refl _⟩
  | cons d rest ih =>
    obtain ⟨hperm, hsublist⟩ := ih (List.nodup_cons.1 distinct).2 (unhonoured_rest distinct h)
    have hone := oneMore_shortfalls (h d List.mem_cons_self)
    exact ⟨hone.perm.trans (hperm.cons d.2), hsublist.trans hone.sublist⟩

/-- **What cannot be honoured is as good as not asked.** Without a constraint that cannot be honoured
a requirement gives the same answers for all values of a field, and the remarks on the field are one
fewer: the one that names the constraint's literal. The same holds when several such constraints are
left out, for as many remarks. -/
theorem unhonoured_as_unset (p : Policy) (r : Requirement) (field : String) :
    (∀ c part, p.Unhonoured r c part →
      (∀ v, (p.checker field r).verdict v = (p.checker field (r.without c)).verdict v) ∧
      OneMore (.shortfall field part) (p.remarksOn field (.ok r))
        (p.remarksOn field (.ok (r.without c)))) ∧
    ∀ ds : List (Constraint × Shortfall), (ds.map Prod.fst).Nodup →
      (∀ d ∈ ds, p.Unhonoured r d.1 d.2) →
      (∀ v, (p.checker field r).verdict v =
        (p.checker field (r.withoutAll (ds.map Prod.fst))).verdict v) ∧
      (p.remarksOn field (.ok r)).Perm (ds.map (fun d => .shortfall field d.2) ++
        p.remarksOn field (.ok (r.withoutAll (ds.map Prod.fst)))) ∧
      (p.remarksOn field (.ok (r.withoutAll (ds.map Prod.fst)))).Sublist
        (p.remarksOn field (.ok r)) := by
  refine ⟨fun c part h => ⟨fun v => ?_, (oneMore_shortfalls h).map _⟩,
    fun ds distinct h => ⟨fun v => ?_, ?_, ?_⟩⟩
  · rw [checker_without h]
  · rw [checker_withoutAll distinct h]
  · have hperm := (perm_shortfalls distinct h).1.map (Remark.shortfall field)
    rwa [List.map_append, List.map_map] at hperm
  · exact (perm_shortfalls distinct h).2.map _

end Policy

namespace Sample

/-- A due date of which two things are asked in vain. -/
def dueInVain : Requirement where
  kind := .date
  required := true
  minDate := some "tomorrow"
  customRule := some "noFullMoon"

end Sample

open Sample in
/-- The due date is asked for as if it were any date, with two remarks; and with one of them if the
earliest date is left out. -/
theorem unhonoured_as_unset_dueInVain :
    policy.Unhonoured dueInVain .minDate (.invalidMinDate "tomorrow") ∧
    policy.Unhonoured dueInVain .customRule (.unknownCustomRule "noFullMoon") ∧
    OneMore (.shortfall "due" (.invalidMinDate "tomorrow"))
      (policy.remarksOn "due" (.ok dueInVain))
      [.shortfall "due" (.unknownCustomRule "noFullMoon")] ∧
    (∀ v, (policy.checker "due" dueInVain).verdict v =
      (policy.checker "due" { kind := .date, required := true }).verdict v) ∧
    (policy.remarksOn "due" (.ok dueInVain)).Perm
      [.shortfall "due" (.invalidMinDate "tomorrow"),
        .shortfall "due" (.unknownCustomRule "noFullMoon")] := by
  have hmin : policy.Unhonoured dueInVain .minDate (.invalidMinDate "tomorrow") :=
    .minDate rfl rfl (by decide) (by decide +kernel)
  have hrule : policy.Unhonoured dueInVain .customRule (.unknownCustomRule "noFullMoon") :=
    .customRule rfl rfl (by decide +kernel)
  obtain ⟨hone, hall⟩ := Policy.unhonoured_as_unset policy dueInVain "due"
  obtain ⟨hverdict, hperm, -⟩ := hall
    [(.minDate, .invalidMinDate "tomorrow"), (.customRule, .unknownCustomRule "noFullMoon")]
    (by decide) (by simp [hmin, hrule])
  exact ⟨hmin, hrule, (hone _ _ hmin).2, hverdict, hperm⟩

end FormCheck
