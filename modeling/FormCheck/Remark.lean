import FormCheck.Requirement

/-!
# Remarks on rules

A `Remark` reports a part of a rule book that could not be honoured. A field whose rule says nothing
definite is left out of the form; every other remark leaves the field in place and only costs the
part that it names.

`Remark` stands for `Diagnostic`, and `Remark.dropsField` for `drops_field`. A `Shortfall` is a
diagnostic of `compile_rule`, without the field.
-/

namespace FormCheck

/-- A part of what is asked of a field that cannot be honoured. -/
inductive Shortfall where
  /-- The pattern is no regular expression. -/
  | invalidPattern (pattern : String)
  /-- Values of the kind are checked for presence only. -/
  | unsupportedKind (kind : String)
  /-- No date rule has the name. -/
  | unknownCustomRule (rule : String)
  /-- The earliest date is none. -/
  | invalidMinDate (value : String)
  /-- The key of a message belongs to no constraint. -/
  | unknownMessageKey (key : String)
deriving DecidableEq

/-- What is said of the field, after its name. -/
def Shortfall.text : Shortfall → String
  | invalidPattern pattern => "has invalid pattern '" ++ pattern ++ "'"
  | unsupportedKind kind =>
    "has type '" ++ kind ++ "' with no dedicated checks; only presence is enforced"
  | unknownCustomRule rule => "names unknown custom rule '" ++ rule ++ "'"
  | invalidMinDate value =>
    "has minDate '" ++ value ++ "' which is neither 'today' nor a valid date"
  | unknownMessageKey key => "has message template '" ++ key ++ "' which matches no constraint"

/-- A report on one field of a rule book. -/
inductive Remark where
  /-- The rule of the field does not say what is asked of it. -/
  | unresolved (cause : Unresolved)
  /-- The field does without a part of its rule. -/
  | shortfall (field : String) (part : Shortfall)
deriving DecidableEq

namespace Remark

/-- The field that the remark is about. -/
def field : Remark → String
  | unresolved cause => cause.field
  | shortfall field _ => field

/-- Whether the field is left out of the form. -/
def dropsField : Remark → Bool
  | unresolved _ => true
  | shortfall _ _ => false

/-- The wording. -/
def message : Remark → String
  | unresolved cause => cause.message
  | shortfall field part => "Field '" ++ field ++ "' " ++ part.text

end Remark

end FormCheck
