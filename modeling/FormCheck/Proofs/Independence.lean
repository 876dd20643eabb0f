import FormCheck.Proofs.Documents

/-!
# Fields do not see each other

Two pairs of documents that agree on the rule of a field, and on the definition that this rule
names, give the field the same checker and the same remarks. Nothing else in the documents counts:
not the other rules, not the other definitions, not whether these can be read, and not the order in
which they are written.

`Form.AgreeOn` compares what `get` and `diagnostics_for` tell of one field after `compile_json`.

* `Requirement.ofJson_congr`: the reading of one field looks up the definition that the field's rule
  names, and no other.
* **`formOfJson_agreeOn`**: two forms agree on such a field (`Form.AgreeOn`).
-/

namespace FormCheck

/-- **Two forms agree on a field**: on whether they have it, on what its checker is like, on the
answers for all values, and on the remarks. -/
structure Form.AgreeOn (form₁ form₂ : Form) (field : String) : Prop where
  contains : form₁.contains field = form₂.contains field
  kind : (form₁.get? field).map Checker.kind = (form₂.get? field).map Checker.kind
  required : (form₁.get? field).map Checker.required = (form₂.get? field).map Checker.required
  size : (form₁.get? field).map (·.inspection.size) = (form₂.get? field).map (·.inspection.size)
  verdict : ∀ v, form₁.verdict field v = form₂.verdict field v
  remarks : form₁.remarksOn field = form₂.remarksOn field

theorem Form.AgreeOn.of_get? {form₁ form₂ : Form} {field : String}
    (hc : form₁.get? field = form₂.get? field)
    (hr : form₁.remarksOn field = form₂.remarksOn field) : form₁.AgreeOn form₂ field where
  contains := congrArg Option.isSome hc
  kind := by rw [hc]
  required := by rw [hc]
  size := by rw [hc]
  verdict v := by rw [Form.verdict, Form.verdict, hc]
  remarks := hr

/-- Two documents of definitions hold the same under each name to which the written rule refers. A
rule without a reference, or one that cannot be read, refers to no name. -/
def RuleBook.AgreeFor (v definitions₁ definitions₂ : Json) : Prop :=
  ∀ rule, Rule.ofJson v = .ok rule → ∀ name, rule.Names name →
    definition? definitions₁ name = definition? definitions₂ name

/-- **The reading of a field** looks up no definition but the one that the field's rule names. -/
theorem Requirement.ofJson_congr {v definitions₁ definitions₂ : Json}
    (h : RuleBook.AgreeFor v definitions₁ definitions₂) (field : String) :
    ofJson (RuleBook.definition? definitions₁) field v =
      ofJson (RuleBook.definition? definitions₂) field v := by
  unfold ofJson
  cases hv : Rule.ofJson v with
  | error e => rfl
  | ok rule =>
    cases hr : rule.reference with
    | none => simp only [hr]
    | some reference =>
      cases hn : (definitionName? reference).filter (· ≠ "") with
      | none => simp only [hr, hn]
      | some name =>
        have hd := h rule hv name ((name_eq_some_iff hr).1 hn)
        simp only [hr, hn, hd]

namespace Policy

variable {p : Policy} {rules₁ rules₂ definitions₁ definitions₂ : Json} {form₁ form₂ : Form}

/-- **Fields are compiled independently.** The forms of two pairs of documents agree on a field if
the documents agree on its rule and on the definition that the rule names. -/
theorem formOfJson_agreeOn (h₁ : p.formOfJson rules₁ definitions₁ = .ok form₁)
    (h₂ : p.formOfJson rules₂ definitions₂ = .ok form₂) {field : String} {v : Json}
    (hv₁ : rules₁.member? field = some v) (hv₂ : rules₂.member? field = some v)
    (agree : RuleBook.AgreeFor v definitions₁ definitions₂) : form₁.AgreeOn form₂ field := by
  have hread := Requirement.ofJson_congr agree field
  refine Form.AgreeOn.of_get? ?_ ?_
  · rw [get?_of_formOfJson h₁, get?_of_formOfJson h₂, hv₁, hv₂, Option.bind_some, Option.bind_some,
      hread]
  · rw [remarksOn_of_formOfJson h₁, remarksOn_of_formOfJson h₂, hv₁, hv₂, Option.map_some,
      Option.map_some, hread]

end Policy

namespace Sample

/-- Rules that keep the one for the amount, behind a broken one and without the memo. -/
def otherRules : Json := .object [("date", .text "today"), ("amount", amount)]

/-- Definitions that keep the one of money, behind a new one and without the note. -/
def otherDefinitions : Json :=
  .object
    [("definitions", .object [("time", .null), ("money", .object [("type", .text "number")])])]

end Sample

open Sample in
/-- The amount is compiled alike under both pairs of documents. -/
theorem formOfJson_agreeOn_amount :
    ∃ form₁ form₂, policy.formOfJson rules definitions = .ok form₁ ∧
      policy.formOfJson otherRules otherDefinitions = .ok form₂ ∧
      rules.member? "amount" = some amount ∧ otherRules.member? "amount" = some amount ∧
      RuleBook.AgreeFor amount definitions otherDefinitions ∧ form₁.AgreeOn form₂ "amount" := by
  have agree : RuleBook.AgreeFor amount definitions otherDefinitions := by
    intro rule read name names
    cases read
    have hname := Requirement.definitionName?_eq_some_iff.2 (Option.some.inj names.2)
    cases hname
    rfl
  obtain ⟨form₁, h₁⟩ : ∃ form, policy.formOfJson rules definitions = .ok form := ⟨_, rfl⟩
  obtain ⟨form₂, h₂⟩ : ∃ form, policy.formOfJson otherRules otherDefinitions = .ok form := ⟨_, rfl⟩
  exact ⟨form₁, form₂, h₁, h₂, rfl, rfl, agree, Policy.formOfJson_agreeOn h₁ h₂ rfl rfl agree⟩

end FormCheck
