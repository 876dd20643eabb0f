import FormCheck.Check
import FormCheck.Date.Reader
import FormCheck.Kind
import FormCheck.Messages
import FormCheck.Text.Blank

/-!
# Checkers of fields

A `Checker` answers for the values of one field in three steps: whether there is a value, whether it
is of the declared kind, and whether it passes a chain of checks. The first failure counts. Its
message comes from the field's own template if there is one.

`Checker` stands for `CompiledValidator` and `Inspection` for its `Strategy`: `Checker.verdict` is
`validate`, `Checker.judge` its `check`, `Checker.finish` its `finish`, and `Kind.isAbsent` its
`is_absent`. `Inspection.run` is the `check` of a strategy, with `Inspection.number?` for
`coerce_number` and `Inspection.date?` for `coerce_date`.
-/

namespace FormCheck

/-- How a value that is present is judged. -/
inductive Inspection where
  /-- The value has to be a text, which is checked with or without the blanks at its ends. -/
  | text (trimmed : Bool) (checks : Chain String)
  /-- The value has to be a number, or a text that spells one. -/
  | number (checks : Chain Double)
  /-- The value has to be a text that spells a date in the given format. -/
  | date (format : String) (checks : Chain Date)
  /-- Any value will do. -/
  | presence

namespace Inspection

/-- How many checks follow the one of the kind. -/
def size : Inspection → Nat
  | text _ checks => checks.size
  | number checks => checks.size
  | date _ checks => checks.size
  | presence => 0

/-- The number that a value is or spells; blanks at the ends of a text do not count. -/
def number? : Json → Option Double
  | .text s => Double.ofText? (Text.trimmed s.toList)
  | v => v.number?

/-- The date that a value spells. -/
def date? (format : String) : Json → Option Date
  | .text s => Date.parse? format s
  | _ => none

/-- Runs the checks on what a value stands for; a value that stands for nothing is not of the
kind. -/
def runOn {α : Type} (kind : Kind) (checks : Chain α) : Option α → Verdict
  | some x => checks.run x
  | none => .rejected (.kind kind.name)

/-- Judges a value that is present. -/
def run (i : Inspection) (v : Json) : Verdict :=
  match i with
  | text trimmed checks =>
    match v with
    | .text s => checks.run (if trimmed then Text.trim s else s)
    | _ => .rejected (.kind Kind.text.name)
  | number checks => runOn .number checks (number? v)
  | date format checks => runOn .date checks (date? format v)
  | presence => .accepted

end Inspection

/-- What is needed to answer for the values of one field. -/
structure Checker where
  /-- The field that failures name. -/
  field : String
  kind : Kind
  /-- Whether there has to be a value. -/
  required : Bool
  messages : Messages
  inspection : Inspection

/-- Whether a value counts as none: `null`, the empty text, and for kinds other than numbers and
dates also a text of blanks. -/
def Kind.isAbsent (k : Kind) : Json → Bool
  | .null => true
  | .text s =>
    match k with
    | .number | .date => s.isEmpty
    | _ => Text.isBlankOnly s
  | _ => false

namespace Checker

/-- The verdict with the messages that failures have of themselves. -/
def judge (c : Checker) (v : Json) : Verdict :=
  if c.kind.isAbsent v then Verdict.ofCondition (!c.required) (.required c.field)
  else c.inspection.run v

/-- A failure as one of the field, in the words of the field's template if there is one. -/
def finish (c : Checker) (f : Failure) : Failure :=
  let worded := match c.messages.render f c.field with
    | some message => f.withMessage message
    | none => f
  worded.withField c.field

/-- Answers for a value of the field. -/
def verdict (c : Checker) (v : Json) : Verdict := (c.judge v).mapFailure c.finish

theorem field_finish (c : Checker) (f : Failure) : (c.finish f).field = some c.field := by
  unfold finish
  split <;> rfl

theorem constraint_finish (c : Checker) (f : Failure) :
    (c.finish f).constraint = f.constraint := by
  unfold finish
  split <;> rfl

theorem params_finish (c : Checker) (f : Failure) : (c.finish f).params = f.params := by
  unfold finish
  split <;> rfl

/-- A failure names the field that the checker holds. -/
theorem field_of_verdict {c : Checker} {v : Json} {f : Failure} (h : c.verdict v = .rejected f) :
    f.field = some c.field := by
  obtain ⟨d, -, rfl⟩ := Verdict.mapFailure_eq_rejected_iff.1 h
  exact c.field_finish d

end Checker

end FormCheck
