import FormCheck.Form

/-!
# What a checker answers, said without chains

The checker of a requirement runs a chain of checks that the policy put together. This file reads
its verdict off the requirement itself. A value is absent or present; a present value stands for a
text, a number or a date, or for nothing of the required kind; and what it stands for breaks some of
the constraints that the requirement sets, that belong to its kind, and that the policy can honour.

The checker is the one that `compile_rule` makes; its chains are those of `text_chain`,
`number_chain` and `date_chain`.

* `Policy.Breaks` is the last condition, one line for each constraint.
* `Policy.violated?` is the reading as a whole: the constraint that a value violates. Of several
  broken constraints the first one in the order of `Constraint.all` counts.
* **`verdict_eq_violated?`**: the checker rejects a value exactly if the reading finds a violated
  constraint, with the failure of that constraint (`Policy.failureOf?`), which holds the literals of
  the requirement.

The order in which the policy puts checks into a chain is not mentioned by the reading, so the
theorem also says that every chain follows the order of `Constraint.all`.
-/

namespace FormCheck

/-! ## Presence -/

namespace Kind

/-- A value that counts as none: `null`, and a text that is empty (numbers and dates) or made of
blanks only (all other kinds). -/
def Absent (k : Kind) (v : Json) : Prop :=
  v = .null ∨ ∃ s, v = .text s ∧
    if k = .number ∨ k = .date then s = "" else ∀ c ∈ s.toList, isBlank c = true

theorem isAbsent_iff {k : Kind} {v : Json} : k.isAbsent v = true ↔ k.Absent v := by
  unfold Absent
  cases v with
  | text s =>
    simp only [reduceCtorEq, Json.text.injEq, exists_eq_left', false_or]
    cases k with
    | number => simp [isAbsent, String.isEmpty_iff]
    | date => simp [isAbsent, String.isEmpty_iff]
    | text => simp [isAbsent, Text.isBlankOnly]
    | boolean => simp [isAbsent, Text.isBlankOnly]
    | other name h => simp [isAbsent, Text.isBlankOnly]
  | null => simp [isAbsent]
  | bool b => simp [isAbsent]
  | integer n => simp [isAbsent]
  | double x => simp [isAbsent]
  | array items => simp [isAbsent]
  | object members => simp [isAbsent]

instance (k : Kind) (v : Json) : Decidable (k.Absent v) := decidable_of_iff _ isAbsent_iff

end Kind

/-! ## The reading -/

/-- What a present value stands for. -/
inductive Reading where
  | text (s : String)
  | number (x : Double)
  | date (d : Date)

namespace Policy

variable (p : Policy) (r : Requirement)

/-- What a value stands for, read as one of the given kind. -/
def reading? : Kind → Json → Option Reading
  | .text, .text s => some (.text (if p.settings.trimStrings then Text.trim s else s))
  | .number, v => (Inspection.number? v).map .number
  | .date, v => (Inspection.date? p.settings.dateFormat v).map .date
  | _, _ => none

/-- **A broken constraint.** It is set, the policy can honour it, and what the value stands for does
not meet it. No constraint of another kind is ever broken. -/
def Breaks : Reading → Constraint → Prop
  | .text s, .minLength => ∃ min ∈ r.minLength, p.settings.lengthMode.measure s < min.toNat
  | .text s, .maxLength => ∃ max ∈ r.maxLength, max.toNat < p.settings.lengthMode.measure s
  | .text s, .pattern =>
    ∃ source ∈ r.pattern, ∃ pattern ∈ Pattern.compile? source, pattern.isMatch s = false
  | .text s, .allowedValues => ∃ allowed ∈ r.allowedValues, s ∉ allowed
  | .number x, .minValue => ∃ min ∈ r.minValue, ¬ min ≤ x
  | .number x, .maxValue => ∃ max ∈ r.maxValue, ¬ x ≤ max
  | .date d, .minDate => ∃ written ∈ r.minDate,
    if written = "today" then d < p.today
    else ∃ bound ∈ Date.parse? p.settings.dateFormat written, d < bound
  | .date d, .customRule =>
    ∃ name ∈ r.customRule, ∃ rule ∈ p.rules.get? name, rule.allows d = false
  | _, _ => False

instance (x : Reading) (c : Constraint) : Decidable (p.Breaks r x c) := by
  unfold Breaks
  split <;> infer_instance

/-- **The constraint that a value violates**, if any: presence, then the kind, then the first broken
constraint. Of kinds without checks only presence is asked. -/
def violated? (v : Json) : Option Constraint :=
  if r.kind.Absent v then
    if r.required then some .required else none
  else if r.kind.hasChecks then
    match p.reading? r.kind v with
    | none => some .kind
    | some x => Constraint.all.find? fun c => decide (p.Breaks r x c)
  else none

/-- The failure by which a violated constraint is reported, made of the literals of the
requirement. -/
def failureOf? (field : String) : Constraint → Option Failure
  | .required => some (.required field)
  | .kind => some (.kind r.kind.name)
  | .minLength => r.minLength.map .minLength
  | .maxLength => r.maxLength.map .maxLength
  | .pattern => r.pattern.map .pattern
  | .allowedValues => r.allowedValues.map .allowedValues
  | .minValue => r.minValue.map .minValue
  | .maxValue => r.maxValue.map .maxValue
  | .minDate => r.minDate.map .minDate
  | .customRule =>
    r.customRule.bind fun name => (p.rules.get? name).map fun rule => .customRule name rule.message

/-- The failure by which a reading breaks a constraint. -/
def violation? (field : String) (x : Reading) (c : Constraint) : Option Failure :=
  if p.Breaks r x c then p.failureOf? r field c else none

variable {p r}

theorem exists_earliest?_iff {written : String} {d : Date} :
    (∃ bound ∈ p.earliest? written, d < bound) ↔
      if written = "today" then d < p.today
      else ∃ bound ∈ Date.parse? p.settings.dateFormat written, d < bound := by
  by_cases hword : written = "today"
  · rw [if_pos hword, hword, earliest?_today]
    simp
  · rw [if_neg hword, earliest?_literal p hword]

/-! ## Chains of clauses -/

/-- The failure of a value at one clause. A clause that cannot be honoured never fails. -/
def Clause.failure? {α : Type} (x : α) : Clause α → Option Failure
  | .ok check => (check.run x).failure?
  | .error _ => none

@[simp] theorem Clause.failure?_of {α : Type} (holds : α → Bool) (f : Failure) (x : α) :
    Clause.failure? x (.ok (Check.of holds f)) = if holds x then none else some f :=
  Verdict.failure?_ofCondition (holds x) f

/-- The checks among some clauses fail as the first clause that fails. -/
theorem failure?_checksOf {α : Type} (clauses : List (Clause α)) (x : α) :
    ((checksOf clauses).run x).failure? = clauses.findSome? (Clause.failure? x) := by
  rw [Chain.failure?_run]
  unfold checksOf
  induction clauses with
  | nil => rfl
  | cons clause rest ih =>
    cases clause with
    | ok check =>
      rw [List.filterMap_cons_some (show Except.toOption (Except.ok check) = some check from rfl),
        List.findSome?_cons, List.findSome?_cons, ih]
      rfl
    | error part =>
      rw [List.filterMap_cons_none (show Except.toOption (Except.error part) = none from rfl), ih]
      rfl

/-- **The clause of one attribute** fails if the attribute is set and its literal is not met. -/
theorem findSome?_attribute {α β : Type} (clause : β → Clause α) (x : α) (fails : β → Prop)
    [DecidablePred fails] (report : β → Option Failure)
    (h : ∀ literal, (clause literal).failure? x = if fails literal then report literal else none)
    (o : Option β) :
    (o.map clause).toList.findSome? (Clause.failure? x) =
      if ∃ literal ∈ o, fails literal then o.bind report else none := by
  cases o with
  | none => simp
  | some literal =>
    rw [Option.map_some, Option.toList_some, List.findSome?_cons, List.findSome?_nil, h]
    by_cases hl : fails literal
    · cases hr : report literal <;> simp [hl, hr]
    · simp [hl]

theorem findSome?_cons_or {α β : Type} (f : α → Option β) (a : α) (l : List α) :
    (a :: l).findSome? f = (f a).or (l.findSome? f) := by
  rw [List.findSome?_cons]
  cases f a <;> rfl

theorem failure?_textChecks (p : Policy) (r : Requirement) (field : String) (s : String) :
    ((checksOf (p.textClauses r)).run s).failure? =
      Constraint.all.findSome? (p.violation? r field (.text s)) := by
  have hmin := findSome?_attribute (fun min => .ok (.minLength p.settings.lengthMode min)) s
    (fun min => p.settings.lengthMode.measure s < min.toNat) (fun min => some (.minLength min))
    fun min => by
      simp only [Check.minLength, Clause.failure?_of, decide_eq_true_eq, ← Nat.not_lt, ite_not]
  have hmax := findSome?_attribute (fun max => .ok (.maxLength p.settings.lengthMode max)) s
    (fun max => max.toNat < p.settings.lengthMode.measure s) (fun max => some (.maxLength max))
    fun max => by
      simp only [Check.maxLength, Clause.failure?_of, decide_eq_true_eq, ← Nat.not_lt, ite_not]
  have hpattern := findSome?_attribute patternClause s
    (fun source => ∃ pattern ∈ Pattern.compile? source, pattern.isMatch s = false)
    (fun source => some (.pattern source))
    fun source => by
      unfold patternClause
      cases h : Pattern.compile? source with
      | none => simp [Clause.failure?]
      | some pattern =>
        cases hm : pattern.isMatch s <;> simp [Check.pattern, Pattern.source_of_compile? h, hm]
  have hallowed := findSome?_attribute (fun allowed => .ok (.allowedValues allowed)) s
    (fun allowed => s ∉ allowed) (fun allowed => some (.allowedValues allowed))
    fun allowed => by simp [Check.allowedValues]
  simp only [textClauses, List.findSome?_append, failure?_checksOf, hmin, hmax, hpattern, hallowed]
  simp only [Constraint.all, findSome?_cons_or, List.findSome?_nil, violation?, Breaks, failureOf?,
    if_false, Option.or_none, Option.map_eq_bind, Option.or_assoc]
  rfl

theorem failure?_numberChecks (p : Policy) (r : Requirement) (field : String) (x : Double) :
    ((checksOf (numberClauses r)).run x).failure? =
      Constraint.all.findSome? (p.violation? r field (.number x)) := by
  have hmin := findSome?_attribute (fun min => .ok (.minValue min)) x (fun min => ¬ min ≤ x)
    (fun min => some (.minValue min))
    fun min => by simp [Check.minValue]
  have hmax := findSome?_attribute (fun max => .ok (.maxValue max)) x (fun max => ¬ x ≤ max)
    (fun max => some (.maxValue max))
    fun max => by simp [Check.maxValue]
  simp only [numberClauses, List.findSome?_append, failure?_checksOf, hmin, hmax]
  simp only [Constraint.all, findSome?_cons_or, List.findSome?_nil, violation?, Breaks, failureOf?,
    if_false, Option.or_none, Option.map_eq_bind]
  rfl

theorem failure?_dateChecks (p : Policy) (r : Requirement) (field : String) (d : Date) :
    ((checksOf (p.dateClauses r)).run d).failure? =
      Constraint.all.findSome? (p.violation? r field (.date d)) := by
  have hmin := findSome?_attribute p.minDateClause d
    (fun written => if written = "today" then d < p.today
      else ∃ bound ∈ Date.parse? p.settings.dateFormat written, d < bound)
    (fun written => some (.minDate written))
    fun written => by
      simp only [← exists_earliest?_iff]
      unfold minDateClause
      cases h : p.earliest? written with
      | none => simp [Clause.failure?]
      | some bound =>
        simp only [Check.minDate, Clause.failure?_of, decide_eq_true_eq, ← Date.not_lt, ite_not,
          Option.mem_some, exists_eq_left']
  have hrule := findSome?_attribute p.dateRuleClause d
    (fun name => ∃ rule ∈ p.rules.get? name, rule.allows d = false)
    (fun name => (p.rules.get? name).map fun rule => .customRule name rule.message)
    fun name => by
      unfold dateRuleClause
      cases h : p.rules.get? name with
      | none => simp [Clause.failure?]
      | some rule => cases ha : rule.allows d <;> simp [Check.dateRule, ha]
  simp only [dateClauses, List.findSome?_append, failure?_checksOf, hmin, hrule]
  simp only [Constraint.all, findSome?_cons_or, List.findSome?_nil, violation?, Breaks, failureOf?,
    if_false, Option.or_none, Option.map_eq_bind]
  rfl

/-! ## The verdict -/

theorem failureOf?_of_breaks {x : Reading} {c : Constraint} (field : String)
    (h : p.Breaks r x c) : ∃ f, p.failureOf? r field c = some f ∧ f.constraint = c := by
  unfold Breaks at h
  split at h
  case h_8 =>
    obtain ⟨name, hname, rule, hrule, -⟩ := h
    exact ⟨.customRule name rule.message, by
      simp [failureOf?, Option.mem_def.1 hname, Option.mem_def.1 hrule], rfl⟩
  case h_9 => exact absurd h id
  all_goals
    obtain ⟨literal, hl, -⟩ := h
    exact ⟨_, by rw [failureOf?, Option.mem_def.1 hl, Option.map_some], rfl⟩

/-- The first failure among the broken constraints is that of the first broken constraint. -/
theorem findSome?_violation? (field : String) (x : Reading) (cs : List Constraint) :
    cs.findSome? (p.violation? r field x) =
      (cs.find? fun c => decide (p.Breaks r x c)).bind (p.failureOf? r field) := by
  induction cs with
  | nil => rfl
  | cons c rest ih =>
    rw [findSome?_cons_or, List.find?_cons, ih]
    by_cases h : p.Breaks r x c
    · obtain ⟨f, hf, -⟩ := failureOf?_of_breaks field h
      simp [violation?, h, hf]
    · simp [violation?, h]

/-- A present value of a kind with checks is judged by what it stands for. -/
theorem failure?_inspection (p : Policy) (r : Requirement) (field : String) (v : Json)
    (hk : r.kind.hasChecks = true) :
    ((p.inspection r).run v).failure? =
      match p.reading? r.kind v with
      | none => some (.kind r.kind.name)
      | some x => Constraint.all.findSome? (p.violation? r field x) := by
  unfold inspection
  cases h : r.kind with
  | text =>
    cases v with
    | text s => exact failure?_textChecks p r field _
    | _ => rfl
  | number =>
    simp only [Inspection.run, reading?]
    cases Inspection.number? v with
    | none => rfl
    | some x => exact failure?_numberChecks p r field x
  | date =>
    simp only [Inspection.run, reading?]
    cases Inspection.date? p.settings.dateFormat v with
    | none => rfl
    | some d => exact failure?_dateChecks p r field d
  | boolean => simp [h, Kind.hasChecks] at hk
  | other name unknown => simp [h, Kind.hasChecks] at hk

/-- Before it is worded for the field, a failure is that of the violated constraint. -/
theorem failure?_judge (p : Policy) (r : Requirement) (field : String) (v : Json) :
    ((p.checker field r).judge v).failure? = (p.violated? r v).bind (p.failureOf? r field) := by
  show (if r.kind.isAbsent v = true then Verdict.ofCondition (!r.required) (.required field)
    else (p.inspection r).run v).failure? = _
  unfold violated?
  by_cases ha : r.kind.Absent v
  · rw [if_pos (Kind.isAbsent_iff.2 ha), if_pos ha]
    cases r.required <;> rfl
  rw [if_neg (fun h => ha (Kind.isAbsent_iff.1 h)), if_neg ha]
  by_cases hk : r.kind.hasChecks = true
  · rw [if_pos hk, failure?_inspection p r field v hk]
    cases p.reading? r.kind v with
    | none => rfl
    | some x => exact findSome?_violation? field x Constraint.all
  · rw [if_neg hk]
    unfold inspection
    cases h : r.kind with
    | boolean => rfl
    | other name unknown => rfl
    | text => simp [h, Kind.hasChecks] at hk
    | number => simp [h, Kind.hasChecks] at hk
    | date => simp [h, Kind.hasChecks] at hk

theorem failureOf?_of_violated? {v : Json} {c : Constraint} (field : String)
    (h : p.violated? r v = some c) : ∃ f, p.failureOf? r field c = some f ∧ f.constraint = c := by
  unfold violated? at h
  split at h
  · split at h
    · cases h
      exact ⟨.required field, rfl, rfl⟩
    · cases h
  · split at h
    · split at h
      · cases h
        exact ⟨.kind r.kind.name, rfl, rfl⟩
      · have hb := List.find?_some h
        exact failureOf?_of_breaks field (of_decide_eq_true hb)
    · cases h

/-- A failure before the wording is the one of its constraint, and that constraint is violated. -/
theorem violated?_of_judge {field : String} {v : Json} {f : Failure}
    (h : (p.checker field r).judge v = .rejected f) :
    p.violated? r v = some f.constraint ∧ p.failureOf? r field f.constraint = some f := by
  have hfailure := failure?_judge p r field v
  rw [Verdict.failure?_eq_some_iff.2 h] at hfailure
  obtain ⟨c, hc, hf⟩ := Option.bind_eq_some_iff.1 hfailure.symm
  obtain ⟨f', hf', rfl⟩ := failureOf?_of_violated? field hc
  obtain rfl : f = f' := Option.some.inj (hf.symm.trans hf')
  exact ⟨hc, hf⟩

/-- **A checker rejects a value exactly if the value violates a constraint**, and then with the
failure of the violated constraint, in the words of the field's own template if there is one. -/
theorem verdict_eq_violated? (p : Policy) (r : Requirement) (field : String) (v : Json) :
    ((p.checker field r).verdict v).failure? =
        ((p.violated? r v).bind (p.failureOf? r field)).map (p.checker field r).finish ∧
      ((p.checker field r).verdict v).failure?.map Failure.constraint = p.violated? r v := by
  have hv : ((p.checker field r).verdict v).failure? =
      ((p.violated? r v).bind (p.failureOf? r field)).map (p.checker field r).finish := by
    rw [Checker.verdict, Verdict.failure?_mapFailure, failure?_judge]
  refine ⟨hv, ?_⟩
  rw [hv]
  cases h : p.violated? r v with
  | none => rfl
  | some c =>
    obtain ⟨f, hf, hc⟩ := failureOf?_of_violated? field h
    rw [Option.bind_some, hf, Option.map_some, Option.map_some, Checker.constraint_finish, hc]

end Policy

end FormCheck
