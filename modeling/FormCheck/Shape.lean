import FormCheck.Double.Text
import FormCheck.Json
import FormCheck.Text.Quoted

/-!
# Shapes of JSON values

Readers of single values. Each asks for one shape and reports any other value together with what it
asked for; `ShapeError.message` words the report.

They report what the deserializer of a `FieldRule` or a `CompilerConfig` reports, in the same words.
-/

namespace FormCheck

/-- Why a value does not have the shape that is asked for. -/
inductive ShapeError where
  /-- A value of another sort. -/
  | wrongType (found : Json) (expected : String)
  /-- A value of the right sort that is out of range. -/
  | wrongValue (found : Json) (expected : String)
  /-- A word that is none of those known. -/
  | unknownWord (found : String) (known : String)
  /-- An array with too many items. -/
  | tooLong (length : Nat)

namespace Json

/-- A value as reports on shapes name it: simple values in full, others by their sort. -/
def describe : Json → String
  | .null => "null"
  | .bool b => "boolean `" ++ (if b then "true" else "false") ++ "`"
  | .integer n => "integer `" ++ toString n.val ++ "`"
  | .double x => "floating point `" ++ x.describe ++ "`"
  | .text s => "string " ++ Text.quoted s
  | .array _ => "sequence"
  | .object _ => "map"

end Json

/-- The wording of a report. -/
def ShapeError.message : ShapeError → String
  | wrongType found expected => "invalid type: " ++ found.describe ++ ", expected " ++ expected
  | wrongValue found expected => "invalid value: " ++ found.describe ++ ", expected " ++ expected
  | unknownWord found known => "unknown variant `" ++ found ++ "`, expected " ++ known
  | tooLong length =>
    "invalid length " ++ toString length ++ ", expected fewer elements in array"

namespace Shape

/-- A text. -/
def text : Json → Except ShapeError String
  | .text s => .ok s
  | v => .error (.wrongType v "a string")

/-- A truth value. -/
def bool : Json → Except ShapeError Bool
  | .bool b => .ok b
  | v => .error (.wrongType v "a boolean")

/-- A length: a whole number from zero to `2 ^ 64 - 1`. -/
def length : Json → Except ShapeError UInt64
  | .integer n =>
    if n.val < 0 then .error (.wrongValue (.integer n) "usize")
    else .ok (UInt64.ofNat n.val.toNat)
  | v => .error (.wrongType v "usize")

/-- A number, whole or not. -/
def number (v : Json) : Except ShapeError Double :=
  match v.number? with
  | some x => .ok x
  | none => .error (.wrongType v "f64")

/-- A list of texts; the first item that is none is reported. -/
def texts : Json → Except ShapeError (List String)
  | .array items => items.mapM text
  | v => .error (.wrongType v "a sequence")

/-- A value that may be left open by `null`. -/
def optional {α : Type} (read : Json → Except ShapeError α) : Json → Except ShapeError (Option α)
  | .null => .ok none
  | v => (read v).map some

/-- The members of an object. -/
def members (expected : String) (v : Json) : Except ShapeError (Dict Json) :=
  match v.members? with
  | some members => .ok members
  | none => .error (.wrongType v expected)

end Shape

end FormCheck
