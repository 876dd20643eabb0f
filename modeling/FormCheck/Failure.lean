import FormCheck.Constraint
import FormCheck.Double.Text
import FormCheck.Json

/-!
# Failures and reports

A `Failure` says which constraint a value violates, in a message, and keeps the values that the
message is made of. A `Report` collects the failures of one submission.

`Failure` stands for `ValidationFailure`, with `Failure.param?` for `param` and one definition for
each of its constructors. `Report` stands for `ValidationErrors`: `Report.find?` is `for_field`,
`Report.toExcept` is `into_result`.

Each constraint has one constructor of failures with a default message; `Failure.toJson` is the
form in which a failure is sent on.
-/

namespace FormCheck

/-- A constraint that a value violates. -/
structure Failure where
  constraint : Constraint
  message : String
  /-- The field that the value was meant for, once known. -/
  field : Option String := none
  /-- Named values for the message, oldest first; a name may be repeated. -/
  params : List (String × String) := []
deriving DecidableEq, Inhabited

namespace Failure

/-- A further named value. -/
def withParam (f : Failure) (name value : String) : Failure :=
  { f with params := f.params ++ [(name, value)] }

/-- The failure as one of the given field. -/
def withField (f : Failure) (field : String) : Failure := { f with field := some field }

/-- The failure with another message. -/
def withMessage (f : Failure) (message : String) : Failure := { f with message }

/-- The first value with the given name. -/
def param? (f : Failure) (name : String) : Option String := Entries.find? name f.params

/-! ## One constructor for each constraint -/

/-- The field has to have a value. -/
def required (field : String) : Failure := { constraint := .required, message := field ++ " is required" }

/-- The value is none of the expected kind. -/
def kind (expected : String) : Failure :=
  { constraint := .kind, message := "Must be a valid " ++ expected
    params := [(Constraint.kind.code, expected)] }

/-- The text is shorter than `min`. -/
def minLength (min : UInt64) : Failure :=
  let n := toString min.toNat
  { constraint := .minLength, message := "Must be at least " ++ n ++ " characters"
    params := [(Constraint.minLength.code, n)] }

/-- The text is longer than `max`. -/
def maxLength (max : UInt64) : Failure :=
  let n := toString max.toNat
  { constraint := .maxLength, message := "Must be at most " ++ n ++ " characters"
    params := [(Constraint.maxLength.code, n)] }

/-- The text does not match. -/
def pattern (source : String) : Failure :=
  { constraint := .pattern, message := "Invalid format"
    params := [(Constraint.pattern.code, source)] }

/-- The text is none of those allowed. -/
def allowedValues (allowed : List String) : Failure :=
  let listed := ", ".intercalate allowed
  { constraint := .allowedValues, message := "Must be one of: " ++ listed
    params := [(Constraint.allowedValues.code, listed)] }

/-- The number is below `min`. -/
def minValue (min : Double) : Failure :=
  { constraint := .minValue, message := "Must be at least " ++ min.text
    params := [(Constraint.minValue.code, min.text)] }

/-- The number is above `max`. -/
def maxValue (max : Double) : Failure :=
  { constraint := .maxValue, message := "Must be at most " ++ max.text
    params := [(Constraint.maxValue.code, max.text)] }

/-- The word by which a rule bounds dates by the current one. -/
def today : String := "today"

/-- The date is earlier than the bound that the rule writes as `bound`. -/
def minDate (bound : String) : Failure :=
  { constraint := .minDate
    message :=
      if bound = today then "Date cannot be in the past"
      else "Date cannot be earlier than " ++ bound
    params := [(Constraint.minDate.code, bound)] }

/-- A named date rule rejects the date. -/
def customRule (rule message : String) : Failure :=
  { constraint := .customRule, message, params := [(Constraint.customRule.code, rule)] }

/-! ## Written forms -/

/-- One line: the field in brackets if known, the constraint, and the message. -/
def line (f : Failure) : String :=
  let body := f.constraint.code ++ ": " ++ f.message
  match f.field with
  | some field => "[" ++ field ++ "] " ++ body
  | none => body

/-- The values by name: a repeated name has its last value. -/
def paramTable (f : Failure) : Dict String := Dict.ofList f.params

/-- The form in which a failure is sent on: the field only if known, values only if there are
any. -/
def toJson (f : Failure) : Json :=
  let field := match f.field with
    | some field => [("field", Json.text field)]
    | none => []
  let params :=
    if f.params.isEmpty then []
    else [("params", Json.object (f.paramTable.mapValues fun _ v => Json.text v).entries)]
  .object ([("kind", .text f.constraint.code), ("message", .text f.message)] ++ field ++ params)

end Failure

/-- The failures of one submission, in the order of the fields. -/
structure Report where
  failures : List Failure := []
deriving DecidableEq, Inhabited

namespace Report

/-- The report with one more failure. -/
def add (r : Report) (f : Failure) : Report := ⟨r.failures ++ [f]⟩

/-- The first failure of the given field. -/
def find? (r : Report) (field : String) : Option Failure :=
  r.failures.find? (·.field == some field)

/-- The given answer if there is no failure, and else the report. -/
def toExcept {α : Type} (r : Report) (answer : α) : Except Report α :=
  if r.failures.isEmpty then .ok answer else .error r

/-- A heading with the number of failures, then one numbered line for each. -/
def text (r : Report) : String :=
  let lines := r.failures.zipIdx.map fun (f, i) => "  " ++ toString (i + 1) ++ ". " ++ f.line ++ "\n"
  "Validation failed with " ++ toString r.failures.length ++ " error(s):\n" ++ String.join lines

/-- The list of failures as it is sent on. -/
def toJson (r : Report) : Json := .array (r.failures.map Failure.toJson)

end Report

end FormCheck
