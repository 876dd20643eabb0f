import FormCheck.Proofs.Judgement
import FormCheck.Proofs.Rendering
import FormCheck.Proofs.Submissions
import FormCheck.Proofs.WrittenRules

/-!
# Where a message comes from

The text of a failure is the end of a long way: the templates of a rule and of its definition are
read from two objects, laid over each other, looked up by the key of a constraint, and filled. Here
it is read off the two objects.

The way leads through `from_json`, `merged_over`, `compile_rule` and the `finish` of a validator.

* `Supplied` says which template two objects supply for a constraint: that of the field's own rule,
  else that of the definition to which the rule refers, else none. The premises of a case exclude the
  cases before it.
* `Constraint.Worded` says how a message is worded: the template filled, or the default text.
* `Requirement.supplied_template?`: the template that a requirement keeps is the one supplied.
* `Policy.params_of_failureOf?`: a failure carries the literal of its constraint
  (`Requirement.literal?`), and nothing else that a template could use.
* **`Policy.formOfJson_provenance`**: each failure of a form names its field, and is worded by the
  template that the documents supply for the constraint.
-/

namespace FormCheck

/-! ## Templates and literals -/

section

variable (definition? : String → Option Json) (v : Json) (c : Constraint)

/-- **The template for a constraint** that the written rule of a field supplies, given the written
definitions. -/
inductive Supplied : Option String → Prop
  /-- The rule has a template of its own. -/
  | own {template : String} (has : v.textMember? c.messageKey = some template) :
      Supplied (some template)
  /-- The rule has none, but refers to a definition that has one. -/
  | inherited {name template : String} {d : Json} (lacks : v.textMember? c.messageKey = none)
      (refers : v.textMember? "$ref" = some (Rule.referenceStart ++ name))
      (found : definition? name = some d) (has : d.textMember? c.messageKey = some template) :
      Supplied (some template)
  /-- Neither of the two has one. -/
  | none (lacks : v.textMember? c.messageKey = none)
      (lacksInherited : ∀ name d, v.textMember? "$ref" = some (Rule.referenceStart ++ name) →
        definition? name = some d → d.textMember? c.messageKey = none) : Supplied none

end

/-- **How a message is worded**: by a template, whose tokens are `field` and the constraint's own
one, or by the default text where there is no template. -/
def Constraint.Worded (c : Constraint) (field : String) (literal : Option String)
    (default : String) : Option String → String → Prop
  | some template, message => Template.Renders (c.tokenValue? field literal) template message
  | none, message => message = default

/-- The text by which a requirement states a constraint, as messages show it. -/
def Requirement.literal? (r : Requirement) : Constraint → Option String
  | .required => none
  | .kind => some r.kind.name
  | .minLength => r.minLength.map fun min => toString min.toNat
  | .maxLength => r.maxLength.map fun max => toString max.toNat
  | .pattern => r.pattern
  | .allowedValues => r.allowedValues.map (", ".intercalate ·)
  | .minValue => r.minValue.map Double.text
  | .maxValue => r.maxValue.map Double.text
  | .minDate => r.minDate
  | .customRule => r.customRule

/-! ## The template of a requirement -/

namespace Requirement

variable {definition? : String → Option Json} {field : String} {v : Json} {r : Requirement}

theorem messages_of_ofSettled {rule : Rule} (h : ofSettled field rule = .ok r) :
    r.messages = rule.messages := by
  unfold ofSettled at h
  split at h
  · cases h
  · cases h
    rfl

/-- **A requirement keeps the template that is supplied.** -/
theorem supplied_template? (h : ofJson definition? field v = .ok r) (c : Constraint) :
    Supplied definition? v c (r.messages.template? c) := by
  have hkey : Messages.isKey c.messageKey = true := by cases c <;> decide +kernel
  unfold Messages.template?
  rcases ofJson_eq_ok_cases h with ⟨rule, hrule, hnone, hr⟩ |
    ⟨rule, name, d, definition, hrule, hnames, hd, hdefinition, hr⟩
  · have href : none = v.textMember? "$ref" := hnone ▸ Rule.reference_of_ofJson hrule
    rw [messages_of_ofSettled hr, Rule.get?_messages_of_ofJson hrule hkey]
    cases hown : v.textMember? c.messageKey with
    | some template => exact .own hown
    | none =>
      refine .none hown fun name d hname => ?_
      rw [← href] at hname
      cases hname
  · have href : some (Rule.referenceStart ++ name) = v.textMember? "$ref" :=
      hnames.2 ▸ Rule.reference_of_ofJson hrule
    have hlayers : r.messages.get? c.messageKey =
        (v.textMember? c.messageKey).or (d.textMember? c.messageKey) := by
      rw [messages_of_ofSettled hr, ← Rule.get?_messages_of_ofJson hrule hkey,
        ← Rule.get?_messages_of_ofJson hdefinition hkey]
      exact Dict.get?_overlay rule.messages definition.messages c.messageKey
    rw [hlayers]
    cases hown : v.textMember? c.messageKey with
    | some template => exact .own hown
    | none =>
      cases hinherited : d.textMember? c.messageKey with
      | some template => exact .inherited hown href.symm hd hinherited
      | none =>
        refine .none hown fun name' d' hname' hd' => ?_
        rw [← href, Option.some.injEq] at hname'
        have hsame : definition? name = definition? name' := by
          congr 1
          exact (String.append_right_inj _).1 hname'
        rw [← hsame, hd] at hd'
        cases hd'
        exact hinherited

end Requirement

/-! ## What a failure carries -/

namespace Policy

variable {p : Policy} {r : Requirement}

theorem params_of_failureOf? {field : String} {c : Constraint} {f : Failure}
    (h : p.failureOf? r field c = some f) :
    f.params = ((r.literal? c).map fun text => (c.code, text)).toList := by
  cases c with
  | required =>
    cases h
    rfl
  | kind =>
    cases h
    rfl
  | customRule =>
    obtain ⟨name, hname, h⟩ := Option.bind_eq_some_iff.1 h
    obtain ⟨rule, -, rfl⟩ := Option.map_eq_some_iff.1 h
    simp only [Requirement.literal?, hname]
    rfl
  | _ =>
    obtain ⟨literal, hliteral, rfl⟩ := Option.map_eq_some_iff.1 h
    simp only [Requirement.literal?, hliteral]
    rfl

theorem message_required {field : String} {d : Failure}
    (h : p.failureOf? r field .required = some d) : d.message = field ++ " is required" := by
  cases h
  rfl

theorem message_customRule {field : String} {d : Failure}
    (h : p.failureOf? r field .customRule = some d) :
    ∃ name rule, r.customRule = some name ∧ p.rules.get? name = some rule ∧
      d.message = rule.message := by
  obtain ⟨name, hname, h⟩ := Option.bind_eq_some_iff.1 h
  obtain ⟨rule, hrule, rfl⟩ := Option.map_eq_some_iff.1 h
  exact ⟨name, rule, hname, hrule, rfl⟩

theorem worded_finish {field : String} {d : Failure}
    (h : p.failureOf? r field d.constraint = some d) :
    d.constraint.Worded field (r.literal? d.constraint) d.message
      (r.messages.template? d.constraint) ((p.checker field r).finish d).message := by
  have hrender : (p.checker field r).messages.render d (p.checker field r).field =
      (r.messages.template? d.constraint).map fun template =>
        Template.render template (Messages.slotValues d field) := rfl
  unfold Checker.finish
  rw [hrender]
  cases r.messages.template? d.constraint with
  | none => rfl
  | some template =>
    show Template.Renders _ template (Template.render template (Messages.slotValues d field))
    rw [← Messages.find?_slotValues (params_of_failureOf? h) field]
    exact Template.renders_render template _

/-- A rejected value violates a constraint, whose failure is worded by the checker. -/
theorem rejected_verdict {field : String} {v : Json} {f : Failure}
    (h : (p.checker field r).verdict v = .rejected f) :
    ∃ d, p.failureOf? r field d.constraint = some d ∧ f = (p.checker field r).finish d := by
  obtain ⟨d, hjudge, rfl⟩ := Verdict.mapFailure_eq_rejected_iff.1 h
  exact ⟨d, (violated?_of_judge hjudge).2, rfl⟩

/-! ## The failures of a form -/

variable {rules definitions : Json} {form : Form}

/-- **Where a message comes from.** A failure of a field names the field. Its message is the template
that the field's rule has for the violated constraint, or else the template of the definition to which
the rule refers, with `field` and the constraint's own token replaced and nothing else; or else the
default text of the constraint, which for a missing value names the field, and for a date rule is the
text of that rule. -/
theorem formOfJson_provenance (h : p.formOfJson rules definitions = .ok form) {field : String}
    {v : Json} {f : Failure} (hf : form.verdict field v = .rejected f) :
    f.field = some field ∧
    ∃ w r d template?, rules.member? field = some w ∧
      Requirement.ofJson (RuleBook.definition? definitions) field w = .ok r ∧
      p.failureOf? r field f.constraint = some d ∧
      Supplied (RuleBook.definition? definitions) w f.constraint template? ∧
      f.constraint.Worded field (r.literal? f.constraint) d.message template? f.message ∧
      (f.constraint = .required → d.message = field ++ " is required") ∧
      (f.constraint = .customRule → ∃ name rule, r.customRule = some name ∧
        p.rules.get? name = some rule ∧ d.message = rule.message) := by
  refine ⟨(filed_of_formOfJson h).field_of_verdict hf, ?_⟩
  unfold Form.verdict at hf
  cases hc : form.get? field with
  | none =>
    rw [hc] at hf
    cases hf
  | some c =>
    rw [hc] at hf
    rw [get?_of_formOfJson h, Option.bind_eq_some_iff] at hc
    obtain ⟨w, hw, hc⟩ := hc
    cases hr : Requirement.ofJson (RuleBook.definition? definitions) field w with
    | error cause =>
      rw [hr] at hc
      cases hc
    | ok r =>
      rw [hr] at hc
      cases hc
      obtain ⟨d, hd, rfl⟩ := rejected_verdict hf
      rw [Checker.constraint_finish]
      refine ⟨w, r, d, r.messages.template? d.constraint, hw, hr, hd,
        Requirement.supplied_template? hr d.constraint, worded_finish hd, ?_, ?_⟩
      · intro hconstraint
        exact message_required (hconstraint ▸ hd)
      · intro hconstraint
        exact message_customRule (hconstraint ▸ hd)

end Policy

namespace Sample

/-- A price whose own template is no text, so that the one of its definition counts. -/
def price : Json :=
  .object [("$ref", .text "#/definitions/money"), ("errorMessageMinValue", .ofUInt64 5)]

def priceRules : Json := .object [("price", price)]

def priceDefinitions : Json :=
  .object
    [("definitions", .object
      [("money", .object
        [("type", .text "number"), ("minValue", .ofUInt64 1),
          ("errorMessageMinValue",
            .text "\x7bfield\x7d is below \x7bminValue\x7d, see \x7bmaxValue\x7d")])])]

end Sample

open Sample in
/-- The price is told in the words of its definition, and the token of another constraint stays. -/
theorem formOfJson_provenance_price :
    ∃ form f, policy.formOfJson priceRules priceDefinitions = .ok form ∧
      form.verdict "price" (.ofUInt64 0) = .rejected f ∧ f.field = some "price" ∧
      f.message = "price is below 1, see \x7bmaxValue\x7d" ∧
      ∃ w r d template?, priceRules.member? "price" = some w ∧
        Requirement.ofJson (RuleBook.definition? priceDefinitions) "price" w = .ok r ∧
        policy.failureOf? r "price" f.constraint = some d ∧
        Supplied (RuleBook.definition? priceDefinitions) w f.constraint template? ∧
        f.constraint.Worded "price" (r.literal? f.constraint) d.message template? f.message := by
  obtain ⟨hfield, w, r, d, template?, hw, hr, hd, hsupplied, hworded, -⟩ :=
    Policy.formOfJson_provenance (show policy.formOfJson priceRules priceDefinitions = .ok _ from rfl)
      (show Form.verdict _ "price" (.ofUInt64 0) = .rejected _ from rfl)
  exact ⟨_, _, rfl, rfl, hfield, by decide +kernel, w, r, d, template?, hw, hr, hd, hsupplied,
    hworded⟩

end FormCheck
