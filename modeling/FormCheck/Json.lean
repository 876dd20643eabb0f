import FormCheck.Dict
import FormCheck.Double.Rounding

/-!
# JSON values

A `Json` value keeps what a reader of rules can tell apart: whole numbers that fit 64 bits, signed
or unsigned, are `integer`s, every other number is a `double`; an object lists its members in the
order in which they were written.

* `Json.members?`: an object as a dictionary, a repeated name at its first place with its last
  value.
* `Json.number?`: the double that stands for a number of either kind.
-/

namespace FormCheck

/-- A whole number that fits 64 bits, signed or unsigned. -/
structure Json.Integer where
  val : Int
  le_val : -0x8000000000000000 ≤ val
  val_lt : val < 0x10000000000000000
deriving DecidableEq

/-- A JSON value. -/
inductive Json where
  | null
  | bool (value : Bool)
  | integer (value : Json.Integer)
  | double (value : Double)
  | text (value : String)
  | array (items : List Json)
  | object (members : List (String × Json))

namespace Json

instance : Inhabited Json := ⟨null⟩

/-- A natural number below `2 ^ 64` as a JSON number. -/
def ofUInt64 (n : UInt64) : Json :=
  .integer ⟨n.toNat, by omega, by have := n.toNat_lt; omega⟩

/-- The members of an object, a repeated name at its first place with its last value. -/
def members? : Json → Option (Dict Json)
  | .object members => some (Dict.ofList members)
  | _ => none

/-- The member of an object that has the given name. -/
def member? (key : String) (v : Json) : Option Json := v.members?.bind (·.get? key)

/-- The double that stands for a number. -/
def number? : Json → Option Double
  | .integer n => some (.ofInt n.val)
  | .double x => some x
  | _ => none

/-- The sort of a value, as reports on whole documents name it. -/
def sort : Json → String
  | .null => "null"
  | .bool _ => "boolean"
  | .integer _ | .double _ => "number"
  | .text _ => "string"
  | .array _ => "array"
  | .object _ => "object"

end Json

end FormCheck
