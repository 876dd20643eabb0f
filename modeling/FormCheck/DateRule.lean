import FormCheck.Calendar
import FormCheck.Dict

/-!
# Named rules for dates

A `DateRule` allows some dates and forbids others. A field names its rule, and the rule is looked up
among the `DateRules` that are known; registering a rule under a known name displaces the old one.

`DateRule` stands for any implementation of the interface of this name, `DateRule.workingDays` for
`NoWeekendOrHoliday`, and `RestDays` for any implementation of `BusinessCalendar`. `DateRules`
stands for `CustomRuleRegistry`: `DateRules.register` is `register`, and `DateRules.ofCalendar` is
`with_calendar`.

* `DateRules.get?_withRule`: a rule is seen under its own name and under no other.
* `DateRules.register_eq`: a registration gives the rule that it displaces.
* `DateRules.mem_names_iff`: the names that are listed are those under which there is a rule.
-/

namespace FormCheck

/-- What tells weekends and holidays. -/
structure RestDays where
  /-- Every Saturday and Sunday, if nothing else is said. -/
  isWeekend : Date → Bool := Date.isWeekend
  isHoliday : Date → Bool

/-- The weekends and holidays that a calendar tells. -/
def Calendar.restDays (c : Calendar) : RestDays where
  isHoliday := c.isHoliday

/-- A rule for dates. -/
structure DateRule where
  /-- Whether the rule allows a date. -/
  allows : Date → Bool
  /-- The message for a date that is not allowed. -/
  message : String := "This date is not allowed"

namespace DateRule

/-- Allows the working days of a calendar. -/
def workingDays (c : Calendar) : DateRule where
  allows := c.isWorkingDay
  message := "Date must not fall on a weekend or holiday"

/-- Allows the days that are neither weekends nor holidays. -/
def notOn (days : RestDays) : DateRule where
  allows d := !days.isWeekend d && !days.isHoliday d
  message := "Date must not fall on a weekend or holiday"

theorem workingDays_eq_notOn (c : Calendar) : workingDays c = .notOn c.restDays := rfl

/-- The name under which the rule of working days is known. -/
def workingDaysName : String := "noWeekendOrHoliday"

end DateRule

/-- The rules for dates that are known, by name. -/
structure DateRules where
  byName : Dict DateRule := .empty
deriving Inhabited

namespace DateRules

/-- No rule at all. -/
def empty : DateRules := {}

/-- The rule with the given name. -/
def get? (rs : DateRules) (name : String) : Option DateRule := rs.byName.get? name

/-- Whether there is a rule with the given name. -/
def contains (rs : DateRules) (name : String) : Bool := rs.byName.contains name

/-- The names of the rules in ascending order. -/
def names (rs : DateRules) : List String := rs.byName.sortedKeys

/-- The rules with one of them added or replaced. -/
def withRule (rs : DateRules) (name : String) (rule : DateRule) : DateRules :=
  ⟨rs.byName.insert name rule⟩

/-- Registers a rule, and gives the rule that it displaces as well. -/
def register (rs : DateRules) (name : String) (rule : DateRule) : Option DateRule × DateRules :=
  let (displaced, byName) := rs.byName.exchange name rule
  (displaced, ⟨byName⟩)

/-- The rule of working days alone. -/
def ofCalendar (c : Calendar) : DateRules :=
  empty.withRule DateRule.workingDaysName (DateRule.workingDays c)

/-- The rules that are known from the start. -/
def standard : DateRules := ofCalendar Calendar.usFederal2025

theorem mem_names_iff {rs : DateRules} {name : String} :
    name ∈ rs.names ↔ ∃ rule, rs.get? name = some rule := by
  rw [names, Dict.mem_sortedKeys, ← Dict.contains_iff, Dict.contains, Option.isSome_iff_exists]
  rfl

theorem register_eq (rs : DateRules) (name : String) (rule : DateRule) :
    rs.register name rule = (rs.get? name, rs.withRule name rule) := by
  simp only [register, Dict.exchange_eq]
  rfl

/-- A rule is seen under its own name and under no other. -/
theorem get?_withRule (rs : DateRules) (name name' : String) (rule : DateRule) :
    (rs.withRule name rule).get? name' = if name' = name then some rule else rs.get? name' :=
  Dict.get?_insert rs.byName name name' rule

end DateRules

end FormCheck
