import FormCheck.Shape

/-!
# Kinds of fields

A field holds texts, numbers, dates or truth values, or values of a kind that is known by name only.
Only the first three have checks of their own.

`Kind` stands for `ValueKind`: `Kind.name` is `as_str` and `Kind.hasChecks` is `is_supported`.

* `Kind.ofName_name`: a kind is told by its name.
-/

namespace FormCheck

/-- The names of the kinds that are more than a name. -/
def Kind.known : List String := ["string", "number", "date", "boolean"]

/-- What a field holds. -/
inductive Kind where
  | text
  | number
  | date
  | boolean
  /-- A kind of which nothing but its name is known. -/
  | other (name : String) (unknown : name ∉ Kind.known)
deriving DecidableEq

namespace Kind

/-- The name of a kind in rules. -/
def name : Kind → String
  | text => "string"
  | number => "number"
  | date => "date"
  | boolean => "boolean"
  | other name _ => name

/-- The kind with the given name. -/
def ofName (name : String) : Kind :=
  if h : name ∈ known then
    if name = "string" then text
    else if name = "number" then number
    else if name = "date" then date
    else boolean
  else other name h

/-- Whether values of the kind are checked for more than presence. -/
def hasChecks : Kind → Bool
  | text | number | date => true
  | boolean | other _ _ => false

theorem ofName_name (k : Kind) : ofName k.name = k := by
  cases k with
  | other name h => simp [ofName, Kind.name, h]
  | _ => rfl

theorem name_ofName (n : String) : (ofName n).name = n := by
  unfold ofName
  split
  · rename_i h
    simp only [known, List.mem_cons, List.not_mem_nil, or_false] at h
    rcases h with rfl | rfl | rfl | rfl <;> rfl
  · rfl

/-- The kind that a value names. -/
def ofJson (v : Json) : Except ShapeError Kind := (Shape.text v).map ofName

end Kind

end FormCheck
