import FormCheck.Kind
import FormCheck.Messages

/-!
# Rules as written

A `Rule` is what a document says about one field or one definition. Every attribute may be left
open, so that a field which refers to a definition can be told to inherit it.

`Rule` stands for `FieldRule`: `Rule.overlay` is `merged_over`, `Rule.ofJson` is how it is
deserialized and `Rule.toJson` how it is serialized.

`Rule.overlay` lays one rule over another. The result has no reference: the reference of a field names
the rule below, and the reference of a definition is not followed.
-/

namespace FormCheck

/-- What a document says about one field or one definition. -/
structure Rule where
  kind : Option Kind := none
  required : Option Bool := none
  minLength : Option UInt64 := none
  maxLength : Option UInt64 := none
  pattern : Option String := none
  allowedValues : Option (List String) := none
  minValue : Option Double := none
  maxValue : Option Double := none
  minDate : Option String := none
  customRule : Option String := none
  /-- The definition that supplies what the rule leaves open. -/
  reference : Option String := none
  messages : Messages := .empty
deriving DecidableEq, Inhabited

namespace Rule

/-- What every reference to a definition begins with. -/
def referenceStart : String := "#/definitions/"

/-- The rule that states a kind and nothing else. -/
def ofKind (kind : Kind) : Rule := { kind := some kind }

/-- The rule that refers to a definition and states nothing itself. -/
def referring (name : String) : Rule := { reference := some (referenceStart ++ name) }

/-- `own` laid over `base`: what `own` states counts, the rest is inherited. -/
def overlay (own base : Rule) : Rule where
  kind := own.kind.or base.kind
  required := own.required.or base.required
  minLength := own.minLength.or base.minLength
  maxLength := own.maxLength.or base.maxLength
  pattern := own.pattern.or base.pattern
  allowedValues := own.allowedValues.or base.allowedValues
  minValue := own.minValue.or base.minValue
  maxValue := own.maxValue.or base.maxValue
  minDate := own.minDate.or base.minDate
  customRule := own.customRule.or base.customRule
  reference := none
  messages := own.messages.overlay base.messages

/-! ## The written form -/

/-- Takes up one member of a written rule. A `null` leaves an attribute open, and a member that
belongs to no rule has no effect. -/
def readMember (r : Rule) (key : String) (v : Json) : Except ShapeError Rule :=
  match key with
  | "type" => (Shape.optional Kind.ofJson v).map fun x => { r with kind := x }
  | "required" => (Shape.optional Shape.bool v).map fun x => { r with required := x }
  | "minLength" => (Shape.optional Shape.length v).map fun x => { r with minLength := x }
  | "maxLength" => (Shape.optional Shape.length v).map fun x => { r with maxLength := x }
  | "pattern" => (Shape.optional Shape.text v).map fun x => { r with pattern := x }
  | "allowedValues" => (Shape.optional Shape.texts v).map fun x => { r with allowedValues := x }
  | "minValue" => (Shape.optional Shape.number v).map fun x => { r with minValue := x }
  | "maxValue" => (Shape.optional Shape.number v).map fun x => { r with maxValue := x }
  | "minDate" => (Shape.optional Shape.text v).map fun x => { r with minDate := x }
  | "customRule" => (Shape.optional Shape.text v).map fun x => { r with customRule := x }
  | "$ref" => (Shape.optional Shape.text v).map fun x => { r with reference := x }
  | key =>
    match v with
    | .text template =>
      if Messages.isKey key then .ok { r with messages := r.messages.insert key template } else .ok r
    | _ => .ok r

/-- Takes up members from the first to the last; the first that has a wrong shape is reported. -/
def readMembers (r : Rule) : List (String × Json) → Except ShapeError Rule
  | [] => .ok r
  | (key, v) :: rest =>
    match r.readMember key v with
    | .ok r => r.readMembers rest
    | .error e => .error e

/-- The rule that an object spells. -/
def ofJson (v : Json) : Except ShapeError Rule :=
  match Shape.members "struct FieldRule" v with
  | .ok members => Rule.readMembers {} members.entries
  | .error e => .error e

/-- A member for an attribute that is stated. -/
def written {α : Type} (key : String) (write : α → Json) (x : Option α) : List (String × Json) :=
  match x with
  | some x => [(key, write x)]
  | none => []

/-- The attributes that a rule states, with their keys. -/
def attributes (r : Rule) : List (String × Json) :=
  written "type" (fun k => .text (Kind.name k)) r.kind ++
  written "required" .bool r.required ++
  written "minLength" .ofUInt64 r.minLength ++
  written "maxLength" .ofUInt64 r.maxLength ++
  written "pattern" .text r.pattern ++
  written "allowedValues" (fun xs => .array (xs.map .text)) r.allowedValues ++
  written "minValue" .double r.minValue ++
  written "maxValue" .double r.maxValue ++
  written "minDate" .text r.minDate ++
  written "customRule" .text r.customRule ++
  written "$ref" .text r.reference

/-- The object that spells a rule: what it states, then its messages. -/
def toJson (r : Rule) : Json :=
  .object (r.attributes ++ r.messages.entries.map fun e => (e.1, .text e.2))

end Rule

end FormCheck
