import FormCheck.Policy
import FormCheck.RuleBook

/-!
# Forms

A `Form` is a rule book made ready for checking: a checker for each field whose rule says something
definite, and remarks on everything that could not be honoured.

`Form` stands for `CompiledForm`: `Form.verdict` is `validate_field`, `Form.verdicts` is `outcomes`,
`Form.validate` is `validate_form`, and `Form.remarksOn` is `diagnostics_for`. `Policy.form` is
`compile`, `Policy.formOfJson` is `compile_json`, and `Policy.load` is `load_form`.

A value that is missing from a submission is checked as `null`, and a field that the form does not
have accepts every value.

* `Form.failures_report`: the report of a submission lists the failures of the single fields.
* `Policy.get?_form`, `Policy.contains_form_iff`: the checker of a field is that of what the book
  asks of it, and there is one exactly if the book says what is asked.
* `Form.Filed`, `Policy.filed_form`: failures name the field under which the checker is kept.
* `Policy.form_eq`: forms are the same if the same is made of each field.
-/

namespace FormCheck

/-- Checkers for the fields of a form. -/
structure Form where
  checkers : Dict Checker := .empty
  remarks : List Remark := []

namespace Form

/-- The names of the fields, in their order. -/
def fields (form : Form) : List String := form.checkers.keys

/-- How many fields there are. -/
def size (form : Form) : Nat := form.checkers.size

/-- Whether there is no field. -/
def isEmpty (form : Form) : Bool := form.checkers.isEmpty

/-- The checker of a field. -/
def get? (form : Form) (field : String) : Option Checker := form.checkers.get? field

/-- Whether the form has a field. -/
def contains (form : Form) (field : String) : Bool := form.checkers.contains field

/-- The remarks on one field. -/
def remarksOn (form : Form) (field : String) : List Remark :=
  form.remarks.filter (·.field == field)

/-- Answers for one value. -/
def verdict (form : Form) (field : String) (v : Json) : Verdict :=
  match form.get? field with
  | some c => c.verdict v
  | none => .accepted

/-- The value of a field in a submission. -/
def valueOf (values : Dict Json) (field : String) : Json := (values.get? field).getD .null

/-- Answers for each field of a submission. -/
def verdicts (form : Form) (values : Dict Json) : Dict Verdict :=
  form.checkers.mapValues fun field c => c.verdict (valueOf values field)

/-- The failures of a submission, in the order of the fields. -/
def report (form : Form) (values : Dict Json) : Report :=
  ⟨form.checkers.entries.filterMap fun (field, c) =>
    (c.verdict (valueOf values field)).failure?⟩

/-- Answers for a submission as a whole: with the report, if there is a failure. -/
def validate (form : Form) (values : Dict Json) : Except Report Unit :=
  (form.report values).toExcept ()

/-- Every checker of a form is kept under the name of the field that it names in failures. -/
def Filed (form : Form) : Prop := ∀ field c, form.get? field = some c → c.field = field

theorem failures_report (form : Form) (values : Dict Json) :
    (form.report values).failures =
      (form.verdicts values).entries.filterMap fun e => e.2.failure? := by
  rw [verdicts, Dict.mapValues, List.filterMap_map]
  rfl

end Form

namespace Policy

/-- The remarks on a field, given what its rule asks. -/
def remarksOn (p : Policy) (field : String) : Except Unresolved Requirement → List Remark
  | .ok r => (p.shortfalls r).map (.shortfall field)
  | .error cause => [.unresolved cause]

/-- The form of a rule book. Remarks on rules of the wrong shape come first, then those on the other
fields in their order. -/
def form (p : Policy) (b : RuleBook) : Form where
  checkers := b.fields.filterMap fun field rule =>
    (b.require field rule).toOption.map (p.checker field)
  remarks :=
    (b.malformedFields.entries.map fun (field, reason) =>
      .unresolved (.malformedRule field reason)) ++
    b.fields.entries.flatMap fun (field, rule) => p.remarksOn field (b.require field rule)

theorem get?_form (p : Policy) (b : RuleBook) (field : String) :
    (p.form b).get? field =
      (b.fields.get? field).bind fun rule => (b.require field rule).toOption.map (p.checker field) :=
  Dict.get?_filterMap _ b.fields field

/-- **The checkers of a form are filed under their fields.** -/
theorem filed_form (p : Policy) (b : RuleBook) : (p.form b).Filed := by
  intro field c hc
  rw [get?_form] at hc
  obtain ⟨rule, -, hrule⟩ := Option.bind_eq_some_iff.1 hc
  obtain ⟨r, -, rfl⟩ := Option.map_eq_some_iff.1 hrule
  rfl

/-- A field stands in the form exactly if it has a rule that can be settled. -/
theorem contains_form_iff (p : Policy) {b : RuleBook} {field : String} :
    (p.form b).contains field = true ↔
      ∃ rule r, b.fields.get? field = some rule ∧ b.require field rule = .ok r := by
  show ((p.form b).get? field).isSome = true ↔ _
  rw [get?_form]
  cases b.fields.get? field with
  | none => simp
  | some rule =>
    cases hrequire : b.require field rule <;> simp [hrequire, Except.toOption]

/-- Two policies make the same form of two books if they make the same of each field: the same
checker and the same remarks. -/
theorem form_eq {p q : Policy} {b b' : RuleBook} {R : String → Rule → Rule → Prop}
    (hfields : Dict.Alike R b.fields b'.fields) (hmalformed : b.malformedFields = b'.malformedFields)
    (hchecker : ∀ field rule rule', b.fields.get? field = some rule → R field rule rule' →
      (b.require field rule).toOption.map (p.checker field) =
        (b'.require field rule').toOption.map (q.checker field))
    (hremarks : ∀ field rule rule', b.fields.get? field = some rule → R field rule rule' →
      p.remarksOn field (b.require field rule) = q.remarksOn field (b'.require field rule')) :
    p.form b = q.form b' := by
  have hremarks' := hfields.flatMap_eq
    (f := fun field rule => p.remarksOn field (b.require field rule))
    (g := fun field rule => q.remarksOn field (b'.require field rule)) hremarks
  unfold form
  rw [hfields.filterMap_eq hchecker, hmalformed, hremarks']

/-- The form of a document of rules and a document of definitions. -/
def formOfJson (p : Policy) (rules definitions : Json) : Except BookError Form :=
  (RuleBook.ofJson rules definitions).map p.form

theorem filed_of_formOfJson {p : Policy} {rules definitions : Json} {form : Form}
    (h : p.formOfJson rules definitions = .ok form) : form.Filed := by
  unfold formOfJson at h
  cases hb : RuleBook.ofJson rules definitions with
  | error e =>
    rw [hb] at h
    cases h
  | ok b =>
    rw [hb] at h
    cases h
    exact p.filed_form b

/-- The form whose book is found under its name. -/
def load (p : Policy) (fetch : String → Except BookError RuleBook) (form : String) :
    Except BookError Form :=
  (fetch form).map p.form

end Policy

end FormCheck
