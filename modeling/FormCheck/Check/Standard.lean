import FormCheck.Check
import FormCheck.DateRule
import FormCheck.Pattern
import FormCheck.Settings

/-!
# The checks of single constraints

One check for each constraint that an attribute of a rule states, besides presence and kind. A bound
itself is always within the bound.

They stand for `MinLength`, `MaxLength`, `Pattern`, `AllowedValues`, `MinValue`, `MaxValue`,
`NotBefore` and `CustomDate`.
-/

namespace FormCheck

namespace Check

/-- A text has at least the given length. -/
def minLength (unit : LengthUnit) (min : UInt64) : Check String :=
  .of (fun s => decide (min.toNat ≤ unit.measure s)) (.minLength min)

/-- A text has at most the given length. -/
def maxLength (unit : LengthUnit) (max : UInt64) : Check String :=
  .of (fun s => decide (unit.measure s ≤ max.toNat)) (.maxLength max)

/-- A text matches somewhere. -/
def pattern (p : Pattern) : Check String := .of p.isMatch (.pattern p.source)

/-- A text is one of those listed. -/
def allowedValues (allowed : List String) : Check String :=
  .of allowed.contains (.allowedValues allowed)

/-- A number is not below the bound. -/
def minValue (min : Double) : Check Double := .of (fun x => decide (min ≤ x)) (.minValue min)

/-- A number is not above the bound. -/
def maxValue (max : Double) : Check Double := .of (fun x => decide (x ≤ max)) (.maxValue max)

/-- A date is not earlier than the bound, which the rule writes as `written`. -/
def minDate (bound : Date) (written : String) : Check Date :=
  .of (fun d => decide (bound ≤ d)) (.minDate written)

/-- A named rule allows the date. -/
def dateRule (name : String) (rule : DateRule) : Check Date :=
  .of rule.allows (.customRule name rule.message)

end Check

end FormCheck
