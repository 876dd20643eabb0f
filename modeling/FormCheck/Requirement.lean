import FormCheck.Rule

/-!
# Requirements

A `Requirement` is a rule with its reference settled and its kind known: what is asked of the values
of one field. `Requirement.ofRule` lays the rule of a field over the definition that it refers to.

`Requirement` stands for `ResolvedRule` and `Unresolved` for `ResolveError`. `Requirement.ofRule` is
`resolve`, and `Requirement.ofSettled` is `from_merged`.
-/

namespace FormCheck

/-- Why the rule of a field does not say what is asked of it. -/
inductive Unresolved where
  /-- The reference names a definition that does not exist. -/
  | missingDefinition (field reference : String)
  /-- The reference is not one to a definition. -/
  | malformedReference (field reference : String)
  /-- Neither the rule nor its definition states a kind. -/
  | missingKind (field : String)
  /-- The rule has a wrong shape. -/
  | malformedRule (field reason : String)
  /-- The reference names a definition that has a wrong shape. -/
  | malformedDefinition (field reference reason : String)
deriving DecidableEq

namespace Unresolved

/-- The field whose rule it is. -/
def field : Unresolved → String
  | missingDefinition field _ | malformedReference field _ | missingKind field
  | malformedRule field _ | malformedDefinition field _ _ => field

/-- The wording. -/
def message : Unresolved → String
  | missingDefinition field reference =>
    "Field '" ++ field ++ "' references unknown definition '" ++ reference ++ "'"
  | malformedReference field reference =>
    "Field '" ++ field ++ "' has malformed reference '" ++ reference ++
      "', expected '#/definitions/<name>'"
  | missingKind field => "Field '" ++ field ++ "' does not declare a type"
  | malformedRule field reason => "Field '" ++ field ++ "' has a malformed rule: " ++ reason
  | malformedDefinition field reference reason =>
    "Field '" ++ field ++ "' references malformed definition '" ++ reference ++ "': " ++ reason

end Unresolved

/-- What is asked of the values of one field. -/
structure Requirement where
  kind : Kind
  required : Bool := false
  minLength : Option UInt64 := none
  maxLength : Option UInt64 := none
  pattern : Option String := none
  allowedValues : Option (List String) := none
  minValue : Option Double := none
  maxValue : Option Double := none
  minDate : Option String := none
  customRule : Option String := none
  messages : Messages := .empty
deriving DecidableEq

namespace Requirement

/-- What a rule asks, once there is no reference left to settle. A value need not be present unless
the rule says so. -/
def ofSettled (field : String) (r : Rule) : Except Unresolved Requirement :=
  match r.kind with
  | none => .error (.missingKind field)
  | some kind =>
    .ok {
      kind
      required := r.required.getD false
      minLength := r.minLength
      maxLength := r.maxLength
      pattern := r.pattern
      allowedValues := r.allowedValues
      minValue := r.minValue
      maxValue := r.maxValue
      minDate := r.minDate
      customRule := r.customRule
      messages := r.messages }

/-- The name of the definition that a reference names, the empty name included. -/
def definitionName? (reference : String) : Option String :=
  if Rule.referenceStart.toList.isPrefixOf reference.toList then
    some (String.ofList (reference.toList.drop Rule.referenceStart.length))
  else none

/-- What the rule of a field asks, given the definitions. Without a reference it is taken as it is;
with one, the definition supplies what the rule leaves open. -/
def ofRule (field : String) (r : Rule) (definitions : Dict Rule) :
    Except Unresolved Requirement :=
  match r.reference with
  | none => ofSettled field r
  | some reference =>
    match (definitionName? reference).filter (· ≠ "") with
    | none => .error (.malformedReference field reference)
    | some name =>
      match definitions.get? name with
      | none => .error (.missingDefinition field reference)
      | some definition => ofSettled field (r.overlay definition)

end Requirement

end FormCheck
