/-!
# Constraints

A `Constraint` names what a value can violate. Each constraint has a code, the name of the rule
attribute that states it; a key, under which a rule may keep a message for it; and the tokens that
such a message may use besides `field`.

`Constraint` stands for `FailureKind`: `Constraint.code` is `code`, `Constraint.messageKey` is
`message_key`, `Constraint.tokens` is `placeholders`, and `Constraint.ofMessageKey?` is
`from_message_key`.

* `Constraint.ofMessageKey?_eq_some_iff`: a key names the constraint whose key it is.
-/

namespace FormCheck

/-- What a value can violate. -/
inductive Constraint where
  /-- A value has to be present. -/
  | required
  /-- A value has to be of the declared kind. -/
  | kind
  | minLength
  | maxLength
  | pattern
  | allowedValues
  | minValue
  | maxValue
  | minDate
  /-- A named date rule. -/
  | customRule
deriving DecidableEq, Inhabited

namespace Constraint

/-- All constraints, in the order in which they are checked. -/
def all : List Constraint :=
  [.required, .kind, .minLength, .maxLength, .pattern, .allowedValues, .minValue, .maxValue,
    .minDate, .customRule]

/-- The attribute that states the constraint. -/
def code : Constraint → String
  | required => "required"
  | kind => "type"
  | minLength => "minLength"
  | maxLength => "maxLength"
  | pattern => "pattern"
  | allowedValues => "allowedValues"
  | minValue => "minValue"
  | maxValue => "maxValue"
  | minDate => "minDate"
  | customRule => "customRule"

/-- The key under which a rule keeps its message for the constraint. -/
def messageKey : Constraint → String
  | required => "errorMessageRequired"
  | kind => "errorMessageType"
  | minLength => "errorMessageMinLength"
  | maxLength => "errorMessageMaxLength"
  | pattern => "errorMessagePattern"
  | allowedValues => "errorMessageAllowedValues"
  | minValue => "errorMessageMinValue"
  | maxValue => "errorMessageMaxValue"
  | minDate => "errorMessageMinDate"
  | customRule => "errorMessageCustomRule"

/-- The tokens besides `field` that a message for the constraint may use: its code, except that
nothing is known of a missing value. -/
def tokens : Constraint → List String
  | required => []
  | c => [c.code]

/-- The constraint with the given message key. -/
def ofMessageKey? (key : String) : Option Constraint := all.find? (·.messageKey == key)

/-- The constraint with the given code. -/
def ofCode? (code : String) : Option Constraint := all.find? (·.code == code)

theorem ofMessageKey?_messageKey (c : Constraint) : ofMessageKey? c.messageKey = some c := by
  cases c <;> rfl

theorem ofCode?_code (c : Constraint) : ofCode? c.code = some c := by cases c <;> rfl

theorem code_injective {c d : Constraint} (h : c.code = d.code) : c = d :=
  Option.some.inj (by rw [← ofCode?_code, h, ofCode?_code])

/-- A key names the constraint whose key it is. -/
theorem ofMessageKey?_eq_some_iff {key : String} {c : Constraint} :
    ofMessageKey? key = some c ↔ c.messageKey = key := by
  refine ⟨fun h => ?_, fun h => h ▸ ofMessageKey?_messageKey c⟩
  simpa using List.find?_some h

end Constraint

end FormCheck
