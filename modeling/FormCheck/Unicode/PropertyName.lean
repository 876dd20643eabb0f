import FormCheck.Unicode.Age
import FormCheck.Unicode.Boundary

/-!
# Names of properties

Properties and their values are named loosely: case, blanks, hyphens and underscores do not count,
nor does a leading `is`, nor any character outside ASCII.

`named?` looks up a single name among the binary properties, the general categories and the
scripts, in this order; `valued?` looks up the value of a named property.
-/

namespace FormCheck.Unicode

/-- A name reduced to what counts. A leading `is` counts when only a `c` follows it, because the
name `c` is a category. -/
def looseName (name : String) : String :=
  let cs := name.toList
  let strips : Bool := (cs.take 2).map Char.toLower == ['i', 's']
  let kept := ((if strips then cs.drop 2 else cs).filter fun c =>
    c != ' ' && c != '_' && c != '-' && c.toNat < 0x80).map Char.toLower
  String.ofList (if strips && kept == ['c'] then 'i' :: 's' :: kept else kept)

/-- The entry of a list of names that has the given one. -/
def byName? (rows : List (List String × CharSet)) (name : String) : Option CharSet :=
  (rows.find? fun row => row.1.contains name).map Prod.snd

/-- Scripts by name, each with its own characters. -/
def scriptRows : List (List String × CharSet) := Script.all.map fun s => (s.names, s.own)

/-- Scripts by name, each with the characters used with it. -/
def extendedRows : List (List String × CharSet) := Script.all.map fun s => (s.names, s.extended)

/-- The characters that a single name describes. -/
def named? (name : String) : Option CharSet :=
  let name := looseName name
  (byName? Property.names name).or ((byName? Category.names name).or (byName? scriptRows name))

/-- The characters for which a named property has a named value. -/
def valued? (property value : String) : Option CharSet :=
  let value := looseName value
  match looseName property with
  | "gc" | "generalcategory" => byName? Category.names value
  | "sc" | "script" => byName? scriptRows value
  | "scx" | "scriptextensions" => byName? extendedRows value
  | "age" => Age.upTo? value
  | "gcb" | "graphemeclusterbreak" => byName? Boundary.Grapheme.names value
  | "wb" | "wordbreak" => byName? Boundary.Word.names value
  | "sb" | "sentencebreak" => byName? Boundary.Sentence.names value
  | _ => none

end FormCheck.Unicode
