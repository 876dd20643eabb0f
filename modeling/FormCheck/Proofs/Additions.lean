import FormCheck.Proofs.Acceptance
import FormCheck.Proofs.Inlining

/-!
# Rules that add to a definition

A rule may refer to a definition and add constraints of its own. If it adds only what the definition
leaves open, nothing of the definition is lost: the field is checked for both.

`Rule.AddsTo` says when `merged_over` puts no attribute of the rule in the place of one of the
definition.

* `Rule.AddsTo`: the rule refers to the definition, and states nothing that the definition states.
* `Policy.breaks_overlay_iff`: laid over the definition, the rule has its own constraints and those of
  the definition.
* `Policy.meets_iff_of_breaks`: what asks for the same kind, and is broken by whatever breaks one of
  two requirements, is met by what meets both. Presence is decided before any constraint, and alike
  for the three.
* **`Policy.verdict_addition_iff`**: the field accepts what is accepted by a field that refers to the
  definition and no more, and by a field with the additions alone.
-/

namespace FormCheck

/-! ## Additions -/

namespace Rule

/-- Whether the rule states something about the constraint. -/
def states (r : Rule) : Constraint → Bool
  | .required => r.required.isSome
  | .kind => r.kind.isSome
  | .minLength => r.minLength.isSome
  | .maxLength => r.maxLength.isSome
  | .pattern => r.pattern.isSome
  | .allowedValues => r.allowedValues.isSome
  | .minValue => r.minValue.isSome
  | .maxValue => r.maxValue.isSome
  | .minDate => r.minDate.isSome
  | .customRule => r.customRule.isSome

/-- **A rule adds to a definition**: it refers to the definition by its name, the definition states a
kind, and the rule states nothing about presence and nothing about what the definition states. -/
structure AddsTo (x : Rule) (name : String) (d : Rule) : Prop where
  names : x.Names name
  kind : d.kind.isSome = true
  required : x.required = none
  apart : ∀ c, x.states c = true → d.states c = false

theorem AddsTo.kind_eq_none {x d : Rule} {name : String} (adds : x.AddsTo name d) :
    x.kind = none := by
  cases hx : x.kind with
  | none => rfl
  | some own =>
    have hapart : d.kind.isSome = false := adds.apart .kind (congrArg Option.isSome hx)
    rw [adds.kind] at hapart
    cases hapart

/-- **The additions alone**: the constraints of the rule, asked of values of the definition's kind,
which have to be there if the definition says so. -/
def additions (x d : Rule) : Rule :=
  { x with kind := d.kind, required := d.required, reference := none, messages := .empty }

end Rule

namespace Requirement

/-- What a rule asks of values of the given kind. -/
def asking (kind : Kind) (rule : Rule) : Requirement where
  kind
  required := rule.required.getD false
  minLength := rule.minLength
  maxLength := rule.maxLength
  pattern := rule.pattern
  allowedValues := rule.allowedValues
  minValue := rule.minValue
  maxValue := rule.maxValue
  minDate := rule.minDate
  customRule := rule.customRule
  messages := rule.messages

theorem ofSettled_of_kind {rule : Rule} {kind : Kind} (h : rule.kind = some kind) (field : String) :
    ofSettled field rule = .ok (asking kind rule) := by
  rw [ofSettled, h]
  rfl

end Requirement

namespace RuleBook

variable {b : RuleBook} {field name : String} {rule d : Rule} {kind : Kind}

/-- A rule that refers to a definition asks what it says, laid over the definition. -/
theorem require_of_names (hnames : rule.Names name) (hd : b.definitions.get? name = some d)
    (hkind : (rule.overlay d).kind = some kind) :
    b.require field rule = .ok (.asking kind (rule.overlay d)) := by
  refine require_eq_ok_iff.2 ⟨rule.overlay d, ?_, Requirement.ofSettled_of_kind hkind field⟩
  unfold expand?
  rw [hnames.2]
  simp only [(Requirement.name_eq_some_iff hnames.2).2 hnames, Option.bind_some, hd,
    Option.map_some]

end RuleBook

/-! ## Constraints laid over each other -/

/-- Of two literals of which one at most is there, one meets a condition. -/
theorem exists_mem_or_iff {α : Type} {own base : Option α} {holds : α → Prop}
    (apart : own.isSome = true → base.isSome = false) :
    (∃ x ∈ own.or base, holds x) ↔ (∃ x ∈ base, holds x) ∨ ∃ x ∈ own, holds x := by
  cases own with
  | none => simp
  | some x =>
    have hbase : base = none := by simpa using apart rfl
    simp [hbase]

namespace Policy

variable {p : Policy} {x d : Rule} {name : String}

/-- **A rule laid over a definition** that states other things has the constraints of both. -/
theorem breaks_overlay_iff (apart : ∀ c, x.states c = true → d.states c = false) (kind : Kind)
    (value : Reading) (c : Constraint) :
    p.Breaks (.asking kind (x.overlay d)) value c ↔
      p.Breaks (.asking kind d) value c ∨ p.Breaks (.asking kind (x.additions d)) value c := by
  cases value with
  | text s =>
    cases c with
    | minLength => exact exists_mem_or_iff (apart .minLength)
    | maxLength => exact exists_mem_or_iff (apart .maxLength)
    | pattern => exact exists_mem_or_iff (apart .pattern)
    | allowedValues => exact exists_mem_or_iff (apart .allowedValues)
    | _ => exact (or_self_iff).symm
  | number n =>
    cases c with
    | minValue => exact exists_mem_or_iff (apart .minValue)
    | maxValue => exact exists_mem_or_iff (apart .maxValue)
    | _ => exact (or_self_iff).symm
  | date day =>
    cases c with
    | minDate => exact exists_mem_or_iff (apart .minDate)
    | customRule => exact exists_mem_or_iff (apart .customRule)
    | _ => exact (or_self_iff).symm

/-- **What is broken by whatever breaks one of two requirements** is met by what meets both, if the
three agree on the kind and on presence. -/
theorem meets_iff_of_breaks {r r₁ r₂ : Requirement}
    (breaks : ∀ value c, p.Breaks r value c ↔ p.Breaks r₁ value c ∨ p.Breaks r₂ value c)
    (kind₁ : r₁.kind = r.kind) (kind₂ : r₂.kind = r.kind) (required₁ : r₁.required = r.required)
    (required₂ : r₂.required = r.required) (v : Json) : p.Meets r v ↔ p.Meets r₁ v ∧ p.Meets r₂ v := by
  unfold Meets
  rw [kind₁, kind₂, required₁, required₂]
  by_cases ha : r.kind.Absent v
  · simp only [if_pos ha]
    exact (and_self_iff).symm
  simp only [if_neg ha]
  by_cases hk : r.kind.hasChecks = true
  · cases p.reading? r.kind v with
    | none => simp [hk]
    | some value => simp [hk, breaks, not_or, forall_and]
  · simp [hk]

/-- **A rule that adds to a definition** asks what the definition and the additions ask. -/
theorem meets_overlay_iff (adds : x.AddsTo name d) (kind : Kind) (v : Json) :
    p.Meets (.asking kind (x.overlay d)) v ↔
      p.Meets (.asking kind ((Rule.referring name).overlay d)) v ∧
        p.Meets (.asking kind (x.additions d)) v := by
  have hrequired : (x.overlay d).required = d.required := by
    rw [Rule.overlay, adds.required, Option.none_or]
  have hgetD : d.required.getD false = (x.overlay d).required.getD false := by rw [hrequired]
  -- a reference that states nothing itself leaves the definition's constraints as they are
  have hbreaks : ∀ value c, p.Breaks (.asking kind (x.overlay d)) value c ↔
      p.Breaks (.asking kind ((Rule.referring name).overlay d)) value c ∨
        p.Breaks (.asking kind (x.additions d)) value c :=
    breaks_overlay_iff adds.apart kind
  exact meets_iff_of_breaks hbreaks rfl rfl hgetD hgetD v

/-- **A rule that adds to a definition is checked for both.** Each of three fields has a checker: one
with the rule, one with a reference to the definition and nothing else, and one with the additions
alone, be it in one book or in several. The first accepts exactly what the other two accept. -/
theorem verdict_addition_iff (p : Policy) (adds : x.AddsTo name d) {b b₁ b₂ : RuleBook}
    {field field₁ field₂ : String}
    (hd : b.definitions.get? name = some d) (hfield : b.fields.get? field = some x)
    (hd₁ : b₁.definitions.get? name = some d)
    (hfield₁ : b₁.fields.get? field₁ = some (.referring name))
    (hfield₂ : b₂.fields.get? field₂ = some (x.additions d)) :
    (p.form b).contains field = true ∧ (p.form b₁).contains field₁ = true ∧
    (p.form b₂).contains field₂ = true ∧
    ∀ v, (p.form b).verdict field v = .accepted ↔
      (p.form b₁).verdict field₁ v = .accepted ∧ (p.form b₂).verdict field₂ v = .accepted := by
  obtain ⟨kind, hkind⟩ := Option.isSome_iff_exists.1 adds.kind
  have hoverlay : (x.overlay d).kind = some kind := by
    rw [Rule.overlay, adds.kind_eq_none, hkind, Option.none_or]
  have hr : b.require field x = .ok (.asking kind (x.overlay d)) :=
    RuleBook.require_of_names adds.names hd hoverlay
  have hr₁ : b₁.require field₁ (.referring name) =
      .ok (.asking kind ((Rule.referring name).overlay d)) :=
    RuleBook.require_of_names ⟨adds.names.1, rfl⟩ hd₁ hkind
  have hr₂ : b₂.require field₂ (x.additions d) = .ok (.asking kind (x.additions d)) := by
    have hadditions : (x.additions d).kind = some kind := hkind
    rw [RuleBook.require_of_reference rfl, Requirement.ofSettled_of_kind hadditions]
  refine ⟨(contains_form_iff p).2 ⟨x, _, hfield, hr⟩, (contains_form_iff p).2 ⟨_, _, hfield₁, hr₁⟩,
    (contains_form_iff p).2 ⟨_, _, hfield₂, hr₂⟩, fun v => ?_⟩
  rw [verdict_form hfield hr, verdict_form hfield₁ hr₁, verdict_form hfield₂ hr₂,
    verdict_eq_accepted_iff, verdict_eq_accepted_iff, verdict_eq_accepted_iff]
  exact meets_overlay_iff adds kind v

end Policy

namespace Sample

/-- Account numbers are made of digits. -/
def account : Rule := { Rule.ofKind .text with pattern := some "^[0-9]+$" }

/-- The account numbers of customers are short as well. -/
def customerAccount : Rule := { Rule.referring "account" with maxLength := some 3 }

def accountBook : RuleBook where
  fields := .ofList
    [("customer", customerAccount), ("supplier", Rule.referring "account"),
      ("label", { Rule.ofKind .text with maxLength := some 3 })]
  definitions := .ofList [("account", account)]

end Sample

open Sample in
/-- The account of a customer is one that a supplier may have, and no longer than a label. -/
theorem verdict_addition_iff_customer :
    customerAccount.AddsTo "account" account ∧
    accountBook.definitions.get? "account" = some account ∧
    accountBook.fields.get? "customer" = some customerAccount ∧
    accountBook.fields.get? "supplier" = some (.referring "account") ∧
    accountBook.fields.get? "label" = some (customerAccount.additions account) ∧
    (∀ v, (policy.form accountBook).verdict "customer" v = .accepted ↔
      (policy.form accountBook).verdict "supplier" v = .accepted ∧
        (policy.form accountBook).verdict "label" v = .accepted) ∧
    (policy.form accountBook).verdict "customer" (.text "123") = .accepted ∧
    (policy.form accountBook).verdict "customer" (.text "1234") ≠ .accepted ∧
    (policy.form accountBook).verdict "customer" (.text "abc") ≠ .accepted := by
  have adds : customerAccount.AddsTo "account" account := by
    refine ⟨⟨by decide, rfl⟩, rfl, rfl, fun c => ?_⟩
    cases c <;> decide
  have hcustomer : accountBook.fields.get? "customer" = some customerAccount := rfl
  have hsupplier : accountBook.fields.get? "supplier" = some (.referring "account") := rfl
  have hlabel : accountBook.fields.get? "label" = some (customerAccount.additions account) := rfl
  obtain ⟨-, -, -, hboth⟩ :=
    Policy.verdict_addition_iff policy adds rfl hcustomer rfl hsupplier hlabel
  refine ⟨adds, rfl, hcustomer, hsupplier, hlabel, hboth, ?_, fun h => ?_, fun h => ?_⟩
  · exact (hboth _).2 ⟨by decide +kernel, by decide +kernel⟩
  · exact absurd ((hboth _).1 h).2 (by decide +kernel)
  · exact absurd ((hboth _).1 h).1 (by decide +kernel)

end FormCheck
