import FormCheck.Proofs.Today

/-!
# Policies chosen step by step

A policy starts with the settings and the date rules that hold from the start, and is then changed
by any number of choices. Later choices override earlier ones. Settings and clock are chosen as a
whole; date rules are chosen one by one, under their names, or all at once. The rule of working days
is chosen under its name as well, or by saying which days are days of rest.

`Policy.Choice` are the calls of a `CompilerBuilder`: `config`, `clock`, `registry`, `custom_rule`
and `calendar`. `Policy.ofChoices` is a run of them that ends with `build`.

* `Policy.Choice`, `Policy.ofChoices`: the choices, and the policy that a run of them makes.
* `Policy.Known`: which rule such a policy knows under a name, told by the last choice that decides
  about the name. `Policy.Known.sound`, `Policy.exists_known`: this is the rule that is looked up.
* `Policy.settings_ofChoices`, `Policy.today_ofChoices`: of settings and clocks the last one counts.
  `Policy.rules_ofChoices_filter`: neither makes a difference to the rules.
* `Policy.AlikeFor`: two policies alike in all that a book asks of them. Of the rules that they
  know, these are the ones that the fields of dates name. `Policy.AlikeFor.form`: they make the same
  form.
* **`Policy.last_choice_counts`**: all of this together, for every run of choices.
-/

namespace FormCheck.Policy

variable {Moment : Type}

/-! ## Choices -/

/-- One choice on the way to a policy. -/
inductive Choice (Moment : Type) where
  | settings (s : Settings)
  /-- The clock, which tells the current date of every moment. -/
  | clock (dateAt : Moment → Date)
  /-- The days on which the rule of working days forbids dates. -/
  | restDays (days : RestDays)
  | rule (name : String) (rule : DateRule)
  /-- All rules at once. -/
  | rules (rs : DateRules)

namespace Choice

/-- The settings that are chosen. -/
def settings? : Choice Moment → Option Settings
  | .settings s => some s
  | _ => none

/-- The date that the chosen clock tells now. -/
def date? (now : Moment) : Choice Moment → Option Date
  | .clock dateAt => some (dateAt now)
  | _ => none

/-- The single rule that is chosen, with its name. -/
def rule? : Choice Moment → Option (String × DateRule)
  | .rule name chosen => some (name, chosen)
  | .restDays days => some (DateRule.workingDaysName, .notOn days)
  | _ => none

/-- Whether the choice is about rules. -/
def isOnRules : Choice Moment → Bool
  | .settings _ | .clock _ => false
  | _ => true

/-- **The choice decides about a name**: it gives the name a rule, or replaces all rules. -/
inductive Decides (name : String) : Choice Moment → Prop
  | rule {c : Choice Moment} {rule : DateRule} (gives : c.rule? = some (name, rule)) :
    Decides name c
  | rules (rs : DateRules) : Decides name (.rules rs)

theorem decides_iff_of_rule? {c : Choice Moment} {name name' : String} {rule : DateRule}
    (gives : c.rule? = some (name', rule)) : c.Decides name ↔ name' = name := by
  constructor
  · rintro (gives' | ⟨rs⟩)
    · rw [gives] at gives'
      cases gives'
      rfl
    · cases gives
  · rintro rfl
    exact .rule gives

theorem not_decides_of_not_isOnRules {c : Choice Moment} (h : c.isOnRules = false) (name : String) :
    ¬ c.Decides name := by
  cases c with
  | settings s => exact fun | .rule gives => nomatch gives
  | clock dateAt => exact fun | .rule gives => nomatch gives
  | _ => cases h

instance (name : String) : (c : Choice Moment) → Decidable (c.Decides name)
  | .settings _ => .isFalse (not_decides_of_not_isOnRules rfl name)
  | .clock _ => .isFalse (not_decides_of_not_isOnRules rfl name)
  | .restDays _ => decidable_of_iff _ (decides_iff_of_rule? rfl).symm
  | .rule _ _ => decidable_of_iff _ (decides_iff_of_rule? rfl).symm
  | .rules rs => .isTrue (.rules rs)

end Choice

/-- The policy after one choice, as it stands now. -/
def choose (now : Moment) (p : Policy) : Choice Moment → Policy
  | .settings s => { p with settings := s }
  | .clock dateAt => { p with today := dateAt now }
  | .restDays days => p.withRule DateRule.workingDaysName (.notOn days)
  | .rule name rule => p.withRule name rule
  | .rules rs => { p with rules := rs }

/-- The policy that some choices make, the first one first, as it stands now. As long as no clock is
chosen, the current date is that of the system. -/
def ofChoices (system : Moment → Date) (choices : List (Choice Moment)) (now : Moment) : Policy :=
  choices.foldl (choose now) { today := system now }

/-- A calendar is chosen by its days of rest. -/
theorem choose_restDays (now : Moment) (p : Policy) (c : Calendar) :
    p.choose now (.restDays c.restDays) = p.withCalendar c := by
  rw [withCalendar, DateRule.workingDays_eq_notOn]
  rfl

/-! ## The rule under a name -/

/-- **Which rule is known under a name** after some choices. -/
inductive Known (name : String) : List (Choice Moment) → Option DateRule → Prop
  /-- A rule was chosen, and nothing was decided about the name since. -/
  | given (before : List (Choice Moment)) {c : Choice Moment} {rule : DateRule}
      {after : List (Choice Moment)} (gives : c.rule? = some (name, rule))
      (later : ∀ d ∈ after, ¬ d.Decides name) : Known name (before ++ c :: after) (some rule)
  /-- All rules were replaced, and nothing was decided about the name since. -/
  | held (before : List (Choice Moment)) (rs : DateRules) {after : List (Choice Moment)}
      (later : ∀ d ∈ after, ¬ d.Decides name) :
      Known name (before ++ .rules rs :: after) (rs.get? name)
  /-- Nothing was ever decided about the name. -/
  | standard {choices : List (Choice Moment)} (silent : ∀ d ∈ choices, ¬ d.Decides name) :
      Known name choices (DateRules.standard.get? name)

section

variable (now : Moment) (p : Policy) {name : String} {choices : List (Choice Moment)}

theorem rules_choose_of_rule? {c : Choice Moment} {rule : DateRule}
    (gives : c.rule? = some (name, rule)) :
    (p.choose now c).rules = p.rules.withRule name rule := by
  cases c with
  | rule name' rule' =>
    cases gives
    rfl
  | restDays days =>
    cases gives
    rfl
  | _ => cases gives

/-- **One choice** that does not decide about a name leaves the rule under it alone. -/
theorem get?_choose_of_not_decides {c : Choice Moment} (h : ¬ c.Decides name) :
    (p.choose now c).rules.get? name = p.rules.get? name := by
  cases hrule : c.rule? with
  | some chosen =>
    obtain ⟨name', rule⟩ := chosen
    have hne : name ≠ name' := by
      rintro rfl
      exact h (.rule hrule)
    rw [rules_choose_of_rule? now p hrule, DateRules.get?_withRule, if_neg hne]
  | none =>
    cases c with
    | rules rs => exact absurd (.rules rs) h
    | settings s => rfl
    | clock dateAt => rfl
    | restDays days => cases hrule
    | rule name' rule => cases hrule

/-- **A run of choices** that do not decide about a name leaves the rule under it alone. -/
theorem get?_foldl_of_not_decides (h : ∀ c ∈ choices, ¬ c.Decides name) :
    (choices.foldl (choose now) p).rules.get? name = p.rules.get? name := by
  induction choices generalizing p with
  | nil => rfl
  | cons c rest ih =>
    obtain ⟨hc, hrest⟩ := List.forall_mem_cons.1 h
    rw [List.foldl_cons, ih _ hrest, get?_choose_of_not_decides now p hc]

variable {answer : Option DateRule} (system : Moment → Date)

/-- The rule that is known is the one that is looked up. -/
theorem Known.sound (h : Known name choices answer) :
    (ofChoices system choices now).rules.get? name = answer := by
  unfold ofChoices
  cases h with
  | given before gives later =>
    rw [List.foldl_append, List.foldl_cons, get?_foldl_of_not_decides now _ later,
      rules_choose_of_rule? now _ gives, DateRules.get?_withRule, if_pos rfl]
  | held before rs later =>
    rw [List.foldl_append, List.foldl_cons, get?_foldl_of_not_decides now _ later]
    rfl
  | standard silent => exact get?_foldl_of_not_decides now _ silent

theorem exists_known (name : String) (choices : List (Choice Moment)) :
    ∃ answer, Known name choices answer := by
  induction choices with
  | nil => exact ⟨_, .standard (List.forall_mem_nil _)⟩
  | cons c rest ih =>
    obtain ⟨answer, h⟩ := ih
    cases h with
    | given before gives later => exact ⟨_, .given (c :: before) gives later⟩
    | held before rs later => exact ⟨_, .held (c :: before) rs later⟩
    | standard silent =>
      -- nothing is decided later, so it is the first choice that counts
      by_cases hc : c.Decides name
      · cases hc with
        | rule gives => exact ⟨_, .given [] gives silent⟩
        | rules rs => exact ⟨_, .held [] rs silent⟩
      · exact ⟨_, .standard (List.forall_mem_cons.2 ⟨hc, silent⟩)⟩

/-- **The rule that is looked up is the one that is known.** -/
theorem get?_rules_ofChoices_iff :
    (ofChoices system choices now).rules.get? name = answer ↔ Known name choices answer := by
  constructor
  · rintro rfl
    obtain ⟨answer, h⟩ := exists_known name choices
    rw [h.sound now system]
    exact h
  · exact fun h => h.sound now system

end

/-! ## Settings and clock -/

/-- What each step of a run replaces or leaves alone is told by the last step that replaces it. -/
theorem look_foldl {σ τ α : Type} {step : σ → τ → σ} (look : σ → α) {told : τ → Option α}
    (hstep : ∀ s t, look (step s t) = (told t).getD (look s)) (ts : List τ) (s : σ) :
    look (ts.foldl step s) = (ts.filterMap told).getLastD (look s) := by
  induction ts generalizing s with
  | nil => rfl
  | cons t rest ih =>
    rw [List.foldl_cons, ih, hstep]
    cases htold : told t with
    | none => rw [List.filterMap_cons_none htold, Option.getD_none]
    | some x => rw [List.filterMap_cons_some htold, Option.getD_some, List.getLastD_cons]

section

variable (system : Moment → Date) (choices : List (Choice Moment)) (now : Moment)

theorem settings_ofChoices :
    (ofChoices system choices now).settings = (choices.filterMap Choice.settings?).getLastD {} :=
  look_foldl Policy.settings (fun _ c => by cases c <;> rfl) choices _

theorem today_ofChoices :
    (ofChoices system choices now).today =
      (choices.filterMap (Choice.date? now)).getLastD (system now) :=
  look_foldl Policy.today (fun _ c => by cases c <;> rfl) choices _

end

/-- What a choice does to the rules depends on the rules alone. -/
theorem rules_choose_congr (now now' : Moment) {p q : Policy} (h : p.rules = q.rules)
    (c : Choice Moment) : (p.choose now c).rules = (q.choose now' c).rules := by
  cases c with
  | settings s => exact h
  | clock dateAt => exact h
  | restDays days => exact congrArg (·.withRule DateRule.workingDaysName (.notOn days)) h
  | rule name rule => exact congrArg (·.withRule name rule) h
  | rules rs => rfl

theorem rules_choose_of_not_isOnRules (now : Moment) (p : Policy) {c : Choice Moment}
    (h : c.isOnRules = false) : (p.choose now c).rules = p.rules := by
  cases c with
  | settings s => rfl
  | clock dateAt => rfl
  | _ => cases h

/-- **Settings and clocks make no difference to the rules**: they may as well not be chosen, and the
moment is of no account. -/
theorem rules_ofChoices_filter (system system' : Moment → Date) (choices : List (Choice Moment))
    (now now' : Moment) :
    (ofChoices system' (choices.filter Choice.isOnRules) now').rules =
      (ofChoices system choices now).rules := by
  -- any two policies with the same rules will do for a start
  suffices h : ∀ p q : Policy, p.rules = q.rules →
      ((choices.filter Choice.isOnRules).foldl (choose now') p).rules =
        (choices.foldl (choose now) q).rules from h _ _ rfl
  induction choices with
  | nil => exact fun p q h => h
  | cons c rest ih =>
    intro p q h
    rw [List.foldl_cons]
    cases hc : c.isOnRules with
    | true =>
      rw [List.filter_cons_of_pos hc, List.foldl_cons]
      exact ih _ _ (rules_choose_congr now' now h c)
    | false =>
      rw [List.filter_cons_of_neg (by rw [hc]; exact Bool.false_ne_true)]
      exact ih _ _ (h.trans (rules_choose_of_not_isOnRules now q hc).symm)

/-! ## Forms -/

/-- **Two policies are alike for a book**: they have the settings and the current date in common,
and know the same rules under the names that stand in what the book asks of dates. -/
structure AlikeFor (b : RuleBook) (p q : Policy) : Prop where
  settings : p.settings = q.settings
  today : p.today = q.today
  rules {field : String} {rule : Rule} {r : Requirement} {name : String}
    (stands : b.fields.get? field = some rule) (asks : b.require field rule = .ok r)
    (date : r.kind = .date) (names : r.customRule = some name) :
    p.rules.get? name = q.rules.get? name

section

variable {p q : Policy} {r : Requirement}

/-- The clauses of a date look up one rule at most, which is the one that is named. -/
theorem dateClauses_congr (hsettings : p.settings = q.settings) (htoday : p.today = q.today)
    (hrules : ∀ name, r.customRule = some name → p.rules.get? name = q.rules.get? name) :
    p.dateClauses r = q.dateClauses r := by
  have hmin : p.minDateClause = q.minDateClause := by
    funext written
    rw [minDateClause, minDateClause, earliest?, earliest?, hsettings, htoday]
  have hrule : r.customRule.map p.dateRuleClause = r.customRule.map q.dateRuleClause := by
    cases hname : r.customRule with
    | none => rfl
    | some name =>
      rw [Option.map_some, Option.map_some, dateRuleClause, dateRuleClause, hrules name hname]
  rw [dateClauses, dateClauses, hmin, hrule]

variable {b : RuleBook} {field : String} {rule : Rule}

/-- The same checks are made of what the book asks of a field, and the same are missed. -/
theorem AlikeFor.clauses (h : AlikeFor b p q) (stands : b.fields.get? field = some rule)
    (asks : b.require field rule = .ok r) :
    p.inspection r = q.inspection r ∧ p.constraintShortfalls r = q.constraintShortfalls r := by
  unfold inspection constraintShortfalls
  cases hkind : r.kind with
  | text =>
    have htext : p.textClauses r = q.textClauses r := by
      rw [textClauses, textClauses, h.settings]
    exact ⟨by rw [htext, h.settings], by rw [htext]⟩
  | date =>
    have hdate : p.dateClauses r = q.dateClauses r :=
      dateClauses_congr h.settings h.today fun name names => h.rules stands asks hkind names
    exact ⟨by rw [hdate, h.settings], by rw [hdate]⟩
  | _ => exact ⟨rfl, rfl⟩

/-- **Policies that are alike for a book make the same form of it.** -/
theorem AlikeFor.form (h : AlikeFor b p q) : p.form b = q.form b := by
  have hsame := Dict.Alike.refl (R := fun _ => Eq) (fun _ _ => rfl) b.fields
  refine form_eq hsame rfl (fun field rule rule' stands heq => ?_)
    fun field rule rule' stands heq => ?_
  · subst heq
    cases asks : b.require field rule with
    | error cause => rfl
    | ok r =>
      refine congrArg some ?_
      rw [checker, checker, (h.clauses stands asks).1]
  · subst heq
    cases asks : b.require field rule with
    | error cause => rfl
    | ok r => rw [remarksOn, remarksOn, shortfalls, shortfalls, (h.clauses stands asks).2]

end

/-- **What a run of choices comes to.**

The rule under a name is the one that was chosen last, as long as the rules were not replaced since;
otherwise it is the one among the rules that replaced them last, or the one that holds from the
start. Of settings and of clocks the last one counts, and neither makes a difference to the rules.

The names of rules are listed in ascending order, each one under which a rule is looked up. A
registration gives the rule that it displaces, and leaves the other names alone.

A form shows of the rules those that its fields of dates name. -/
theorem last_choice_counts (system : Moment → Date) (choices : List (Choice Moment)) (now : Moment) :
    (∀ name answer, (ofChoices system choices now).rules.get? name = answer ↔
      Known name choices answer) ∧
    (ofChoices system choices now).settings = (choices.filterMap Choice.settings?).getLastD {} ∧
    (ofChoices system choices now).today =
      (choices.filterMap (Choice.date? now)).getLastD (system now) ∧
    (∀ system' now', (ofChoices system' (choices.filter Choice.isOnRules) now').rules =
      (ofChoices system choices now).rules) ∧
    (∀ rs : DateRules,
      rs.names.Pairwise (· < ·) ∧
      (∀ name, name ∈ rs.names ↔ rs.contains name = true) ∧
      (∀ name, name ∈ rs.names ↔ ∃ rule, rs.get? name = some rule) ∧
      ∀ name rule, (rs.register name rule).1 = rs.get? name ∧
        ∀ name', (rs.register name rule).2.get? name' =
          if name' = name then some rule else rs.get? name') ∧
    ∀ b p q, AlikeFor b p q → p.form b = q.form b := by
  refine ⟨fun name answer => get?_rules_ofChoices_iff now system,
    settings_ofChoices system choices now, today_ofChoices system choices now,
    fun system' now' => rules_ofChoices_filter system system' choices now now', fun rs => ?_,
    fun b p q h => h.form⟩
  refine ⟨Dict.ascending_sortedKeys _, fun name => ?_, fun name => DateRules.mem_names_iff,
    fun name rule => ?_⟩
  · exact Dict.mem_sortedKeys.trans Dict.contains_iff.symm
  · rw [DateRules.register_eq]
    exact ⟨rfl, fun name' => DateRules.get?_withRule rs name name' rule⟩

end FormCheck.Policy

namespace FormCheck

namespace Sample

/-- Allows every date. -/
def anyDay : DateRule := { allows := fun _ => true }

/-- Weekends are the only days of rest. -/
def withoutHolidays : RestDays := { isHoliday := fun _ => false }

/-- The rule of working days is given up and comes back without holidays, after all rules were
dropped. -/
def chosen : List (Policy.Choice Date) :=
  [.rule "noWeekendOrHoliday" anyDay, .clock Date.next, .rules .empty,
    .restDays withoutHolidays, .settings { trimStrings := false }, .clock id]

/-- The same with a further rule. -/
def chosenFurther : List (Policy.Choice Date) := chosen ++ [.rule "fullMoon" anyDay]

end Sample

open Sample in
/-- The calendar is what counts for working days, and the due dates do not show the further rule. -/
theorem last_choice_counts_further :
    Policy.Known "noWeekendOrHoliday" chosen (some (.notOn withoutHolidays)) ∧
    (Policy.ofChoices id chosen friday).rules.get? "noWeekendOrHoliday" =
      some (.notOn withoutHolidays) ∧
    (Policy.ofChoices id chosen friday).settings = { trimStrings := false } ∧
    (Policy.ofChoices id chosen friday).today = friday ∧
    (Policy.ofChoices id chosenFurther friday).rules.get? "fullMoon" = some anyDay ∧
    (Policy.ofChoices id chosen friday).rules.get? "fullMoon" = none ∧
    Policy.AlikeFor dueBook (Policy.ofChoices id chosen friday)
      (Policy.ofChoices id chosenFurther friday) ∧
    (Policy.ofChoices id chosen friday).form dueBook =
      (Policy.ofChoices id chosenFurther friday).form dueBook := by
  obtain ⟨hrule, hsettings, htoday, -, -, hform⟩ := Policy.last_choice_counts id chosen friday
  obtain ⟨hfurther, hsettings', htoday', -⟩ := Policy.last_choice_counts id chosenFurther friday
  have hknown : Policy.Known "noWeekendOrHoliday" chosen (some (.notOn withoutHolidays)) :=
    .given (chosen.take 3) rfl (by decide)
  have hknown' : Policy.Known "noWeekendOrHoliday" chosenFurther (some (.notOn withoutHolidays)) :=
    .given (chosen.take 3) rfl (by decide)
  have hmoon : Policy.Known "fullMoon" chosenFurther (some anyDay) :=
    .given chosen rfl (List.forall_mem_nil _)
  have hnone : Policy.Known "fullMoon" chosen none :=
    .held (chosen.take 2) .empty (by decide)
  have halike : Policy.AlikeFor dueBook (Policy.ofChoices id chosen friday)
      (Policy.ofChoices id chosenFurther friday) := {
    settings := hsettings.trans hsettings'.symm
    today := htoday.trans htoday'.symm
    rules := by
      intro field rule r name stands asks date names
      have hname : name = "noWeekendOrHoliday" := by
        have hentry : (field, rule) ∈ [("due", _), ("entry", _)] := Dict.get?_eq_some_iff.1 stands
        simp only [List.mem_cons, List.not_mem_nil, or_false, Prod.mk.injEq] at hentry
        obtain ⟨rfl, rfl⟩ | ⟨rfl, rfl⟩ := hentry
        · cases asks
          cases names
          rfl
        · cases asks
          cases names
      rw [hname, (hrule _ _).2 hknown, (hfurther _ _).2 hknown'] }
  exact ⟨hknown, (hrule _ _).2 hknown, hsettings, htoday, (hfurther _ _).2 hmoon,
    (hrule _ _).2 hnone, halike, hform _ _ _ halike⟩

end FormCheck
