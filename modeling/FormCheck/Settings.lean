import FormCheck.Date.Text
import FormCheck.Shape

/-!
# Settings

What holds for all fields of a form: the layout of dates, the unit in which lengths are counted,
and whether texts are trimmed before they are checked.

`Settings` stands for `CompilerConfig` and `LengthUnit` for `LengthMode`, with `LengthUnit.measure`
for `measure`.

`Settings.ofJson` reads settings from an object or from an array. What is left out keeps its
default; a value of the wrong shape is reported.
-/

namespace FormCheck

/-- The unit in which the length of a text is counted. -/
inductive LengthUnit where
  /-- Bytes of the UTF-8 form. -/
  | bytes
  /-- Characters. -/
  | chars
deriving DecidableEq, Inhabited

namespace LengthUnit

/-- The length of a text. -/
def measure : LengthUnit → String → Nat
  | bytes, s => s.utf8ByteSize
  | chars, s => s.length

/-- The name of a unit in settings. -/
def name : LengthUnit → String
  | bytes => "bytes"
  | chars => "chars"

/-- The unit with the given name. -/
def ofName (name : String) : Except ShapeError LengthUnit :=
  if name = bytes.name then .ok bytes
  else if name = chars.name then .ok chars
  else .error (.unknownWord name "`bytes` or `chars`")

/-- The unit that a value names: a text, or an object with the name as its only member and nothing
in it. -/
def ofJson : Json → Except ShapeError LengthUnit
  | .text s => ofName s
  | .object members =>
    match (Dict.ofList members).entries with
    | [(key, content)] =>
      match ofName key, content with
      | .error e, _ => .error e
      | .ok unit, .null => .ok unit
      | .ok _, content => .error (.wrongType content "unit")
    | _ => .error (.wrongValue (.object members) "map with a single key")
  | v => .error (.wrongType v "string or map")

end LengthUnit

/-- What holds for all fields of a form. -/
structure Settings where
  /-- The layout that dates have to follow. -/
  dateFormat : String := Date.isoFormat
  lengthMode : LengthUnit := .chars
  /-- Whether texts are checked without the blanks at their ends. -/
  trimStrings : Bool := true
deriving DecidableEq, Inhabited

namespace Settings

/-- Takes up one member of written settings. -/
def readMember (s : Settings) (key : String) (v : Json) : Except ShapeError Settings :=
  match key with
  | "dateFormat" => (Shape.text v).map fun x => { s with dateFormat := x }
  | "lengthMode" => (LengthUnit.ofJson v).map fun x => { s with lengthMode := x }
  | "trimStrings" => (Shape.bool v).map fun x => { s with trimStrings := x }
  | _ => .ok s

/-- The members of settings in the order in which an array gives them. -/
def positions : List String := ["dateFormat", "lengthMode", "trimStrings"]

/-- The settings that a value spells: an object with some of the members, or an array of the first
few in order. -/
def ofJson : Json → Except ShapeError Settings
  | .object members =>
    (Dict.ofList members).entries.foldlM (fun s e => s.readMember e.1 e.2) {}
  | .array items => do
    let s ← (positions.zip items).foldlM (fun (s : Settings) e => s.readMember e.1 e.2) {}
    if positions.length < items.length then .error (.tooLong items.length) else .ok s
  | v => .error (.wrongType v "struct CompilerConfig")

end Settings

end FormCheck
