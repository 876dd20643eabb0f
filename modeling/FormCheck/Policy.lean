import FormCheck.Check.Standard
import FormCheck.Checker
import FormCheck.Remark

/-!
# Policies

A `Policy` says how requirements are turned into checkers: the settings, the current date, and the
date rules that are known. `Policy.checker` builds the checker of a requirement, and
`Policy.shortfalls` lists the parts of the requirement that cannot be honoured.

`Policy` stands for `Compiler`, with what its clock answers in place of the clock. `Policy.checker`
is the validator that `compile_rule` returns and `Policy.shortfalls` what it reports on the way. The
clauses are those of `text_chain`, `number_chain` and `date_chain`; `Policy.earliest?` is the bound
in `date_chain`.

Both come from the same clauses: each constraint that a requirement sets for its kind yields either
a check or a shortfall (`Policy.textClauses`, `Policy.numberClauses`, `Policy.dateClauses`).
Constraints of other kinds have no effect.
-/

namespace FormCheck

/-- How requirements are turned into checkers. -/
structure Policy where
  settings : Settings := {}
  /-- The current date. -/
  today : Date
  rules : DateRules := .standard

namespace Policy

/-- The policy with another calendar behind the rule of working days. -/
def withCalendar (p : Policy) (c : Calendar) : Policy :=
  { p with rules := p.rules.withRule DateRule.workingDaysName (DateRule.workingDays c) }

/-- The policy with a date rule added or replaced. -/
def withRule (p : Policy) (name : String) (rule : DateRule) : Policy :=
  { p with rules := p.rules.withRule name rule }

/-- A constraint as the policy takes it: a check, or what it has to do without. -/
abbrev Clause (α : Type) := Except Shortfall (Check α)

/-- The check of a pattern, if the text is one. -/
def patternClause (source : String) : Clause String :=
  match Pattern.compile? source with
  | some p => .ok (.pattern p)
  | none => .error (.invalidPattern source)

/-- The earliest date that a rule writes as `written`. -/
def earliest? (p : Policy) (written : String) : Option Date :=
  if written = Failure.today then some p.today else Date.parse? p.settings.dateFormat written

theorem earliest?_today (p : Policy) : p.earliest? "today" = some p.today := rfl

/-- What is not the word for the current date is a literal. -/
theorem earliest?_literal (p : Policy) {written : String} (h : written ≠ "today") :
    p.earliest? written = Date.parse? p.settings.dateFormat written := if_neg h

/-- The check of an earliest date, if the text names one. -/
def minDateClause (p : Policy) (written : String) : Clause Date :=
  match p.earliest? written with
  | some bound => .ok (.minDate bound written)
  | none => .error (.invalidMinDate written)

/-- The check of a named date rule, if it is known. -/
def dateRuleClause (p : Policy) (name : String) : Clause Date :=
  match p.rules.get? name with
  | some rule => .ok (.dateRule name rule)
  | none => .error (.unknownCustomRule name)

/-- The constraints of a text. -/
def textClauses (p : Policy) (r : Requirement) : List (Clause String) :=
  let unit := p.settings.lengthMode
  (r.minLength.map fun min => .ok (.minLength unit min)).toList ++
  (r.maxLength.map fun max => .ok (.maxLength unit max)).toList ++
  (r.pattern.map patternClause).toList ++
  (r.allowedValues.map fun allowed => .ok (.allowedValues allowed)).toList

/-- The constraints of a number. -/
def numberClauses (r : Requirement) : List (Clause Double) :=
  (r.minValue.map fun min => .ok (.minValue min)).toList ++
  (r.maxValue.map fun max => .ok (.maxValue max)).toList

/-- The constraints of a date. -/
def dateClauses (p : Policy) (r : Requirement) : List (Clause Date) :=
  (r.minDate.map p.minDateClause).toList ++ (r.customRule.map p.dateRuleClause).toList

/-- The checks among some clauses. -/
def checksOf {α : Type} (clauses : List (Clause α)) : Chain α :=
  ⟨clauses.filterMap Except.toOption⟩

/-- The shortfalls among some clauses. -/
def shortfallsOf {α : Type} (clauses : List (Clause α)) : List Shortfall :=
  clauses.filterMap fun
    | .ok _ => none
    | .error part => some part

/-- How values of the required kind are judged. -/
def inspection (p : Policy) (r : Requirement) : Inspection :=
  match r.kind with
  | .text => .text p.settings.trimStrings (checksOf (p.textClauses r))
  | .number => .number (checksOf (numberClauses r))
  | .date => .date p.settings.dateFormat (checksOf (p.dateClauses r))
  | .boolean | .other _ _ => .presence

/-- The shortfalls of the constraints of the required kind. -/
def constraintShortfalls (p : Policy) (r : Requirement) : List Shortfall :=
  match r.kind with
  | .text => shortfallsOf (p.textClauses r)
  | .number => shortfallsOf (numberClauses r)
  | .date => shortfallsOf (p.dateClauses r)
  | .boolean | .other _ _ => [.unsupportedKind r.kind.name]

/-- The checker of a field, given what is required of it. -/
def checker (p : Policy) (field : String) (r : Requirement) : Checker where
  field := field
  kind := r.kind
  required := r.required
  messages := r.messages
  inspection := p.inspection r

/-- What a requirement asks that the checker cannot honour: constraints first, then messages that
belong to no constraint. -/
def shortfalls (p : Policy) (r : Requirement) : List Shortfall :=
  p.constraintShortfalls r ++ r.messages.unknownKeys.map .unknownMessageKey

end Policy

end FormCheck
