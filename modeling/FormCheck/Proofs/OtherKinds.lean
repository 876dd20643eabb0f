import FormCheck.Proofs.Acceptance
import FormCheck.Proofs.Grammar
import FormCheck.Proofs.Inlining
import FormCheck.Proofs.Remarks

/-!
# Constraints of other kinds

A checker uses of a requirement what belongs to its kind. Which kind that is may be told by the rule
of the field or by the definition to which it refers, so a constraint that stands on a definition can
be of use to one field and inert on another one.

What a kind does not use of a `ResolvedRule` is what the strategy that `compile_rule` makes for it
has no check for.

* `Rule.SameBesides`: two rules that differ in some constraints at most. `Rule.SameBesides.overlay`:
  so do rules that are laid over each other.
* `Requirement.relevant`: what the kind uses of a requirement. `Policy.checker_relevant`,
  `Policy.shortfalls_relevant`: nothing else makes a difference.
* `RuleBook.InertOnField`, `RuleBook.InertOnDefinition`: the constraints that belong to other kinds
  than those of the fields which they reach.
* `RuleBook.SameBesidesInert.require`: two books that differ in inert constraints only ask the same
  of a field, as far as its kind goes.
* **`Policy.form_congr`**: they have the same form.
-/

namespace FormCheck

/-! ## Rules that differ in some constraints -/

namespace Rule

/-- Two rules state the same, but for some constraints. -/
structure SameBesides (inert : Constraint → Prop) (r r' : Rule) : Prop where
  kind : ¬ inert .kind → r.kind = r'.kind
  required : ¬ inert .required → r.required = r'.required
  minLength : ¬ inert .minLength → r.minLength = r'.minLength
  maxLength : ¬ inert .maxLength → r.maxLength = r'.maxLength
  pattern : ¬ inert .pattern → r.pattern = r'.pattern
  allowedValues : ¬ inert .allowedValues → r.allowedValues = r'.allowedValues
  minValue : ¬ inert .minValue → r.minValue = r'.minValue
  maxValue : ¬ inert .maxValue → r.maxValue = r'.maxValue
  minDate : ¬ inert .minDate → r.minDate = r'.minDate
  customRule : ¬ inert .customRule → r.customRule = r'.customRule
  reference : r.reference = r'.reference
  messages : r.messages = r'.messages

variable {inert lower : Constraint → Prop} {r r' d d' : Rule}

theorem SameBesides.refl (inert : Constraint → Prop) (r : Rule) : SameBesides inert r r := by
  constructor <;> simp

theorem SameBesides.overlay (hr : SameBesides inert r r') (hd : SameBesides lower d d') :
    SameBesides (fun c => inert c ∨ lower c) (r.overlay d) (r'.overlay d') := by
  have both : ∀ {α : Type} {c : Constraint} {x x' y y' : Option α}, (¬ inert c → x = x') →
      (¬ lower c → y = y') → ¬ (inert c ∨ lower c) → x.or y = x'.or y' := by
    intro α c x x' y y' hx hy hc
    rw [hx fun h => hc (.inl h), hy fun h => hc (.inr h)]
  exact {
    kind := both hr.kind hd.kind
    required := both hr.required hd.required
    minLength := both hr.minLength hd.minLength
    maxLength := both hr.maxLength hd.maxLength
    pattern := both hr.pattern hd.pattern
    allowedValues := both hr.allowedValues hd.allowedValues
    minValue := both hr.minValue hd.minValue
    maxValue := both hr.maxValue hd.maxValue
    minDate := both hr.minDate hd.minDate
    customRule := both hr.customRule hd.customRule
    reference := rfl
    messages := by
      show r.messages.overlay d.messages = r'.messages.overlay d'.messages
      rw [hr.messages, hd.messages] }

theorem SameBesides.of_attributes
    (h : ∀ a ∈ Attribute.all, (∀ c, inert c → c.code ≠ a.key) → a.get r = a.get r')
    (hmessages : r.messages = r'.messages) : SameBesides inert r r' := by
  have apart : ∀ {d : Constraint}, ¬ inert d → ∀ c, inert c → c.code ≠ d.code :=
    fun hd c hc heq => hd (Constraint.code_injective heq ▸ hc)
  simp only [Attribute.all, List.forall_mem_cons] at h
  obtain ⟨hkind, hrequired, hminLength, hmaxLength, hpattern, hallowed, hminValue, hmaxValue,
    hminDate, hcustomRule, hreference, -⟩ := h
  exact {
    kind := fun h => hkind (apart h)
    required := fun h => hrequired (apart h)
    minLength := fun h => hminLength (apart h)
    maxLength := fun h => hmaxLength (apart h)
    pattern := fun h => hpattern (apart h)
    allowedValues := fun h => hallowed (apart h)
    minValue := fun h => hminValue (apart h)
    maxValue := fun h => hmaxValue (apart h)
    minDate := fun h => hminDate (apart h)
    customRule := fun h => hcustomRule (apart h)
    reference := hreference fun c _ => by cases c <;> decide
    messages := hmessages }

end Rule

/-! ## What a kind uses of a requirement -/

/-- The constraint belongs to some kind. -/
def Constraint.OfKinds (c : Constraint) : Prop := ∃ k : Kind, c ∈ k.constraints

theorem Constraint.not_ofKinds_required : ¬ Constraint.required.OfKinds := by
  rintro ⟨k, hk⟩
  cases k <;> simp [Kind.constraints] at hk

theorem Constraint.not_ofKinds_kind : ¬ Constraint.kind.OfKinds := by
  rintro ⟨k, hk⟩
  cases k <;> simp [Kind.constraints] at hk

/-- An attribute as far as values of the kind are checked for its constraint. -/
def Kind.used {α : Type} (k : Kind) (c : Constraint) (x : Option α) : Option α :=
  if c ∈ k.constraints then x else none

namespace Requirement

/-- The requirement without the constraints of other kinds. -/
def relevant (r : Requirement) : Requirement :=
  { r with
    minLength := r.kind.used .minLength r.minLength
    maxLength := r.kind.used .maxLength r.maxLength
    pattern := r.kind.used .pattern r.pattern
    allowedValues := r.kind.used .allowedValues r.allowedValues
    minValue := r.kind.used .minValue r.minValue
    maxValue := r.kind.used .maxValue r.maxValue
    minDate := r.kind.used .minDate r.minDate
    customRule := r.kind.used .customRule r.customRule }

variable {inert : Constraint → Prop} {rule rule' : Rule} {field : String}

/-- Rules that differ in constraints of other kinds only ask the same of the values of their kind. -/
theorem relevant_ofSettled (h : rule.SameBesides inert rule') (hinert : ∀ c, inert c → c.OfKinds)
    (hother : ∀ k, rule.kind = some k → ∀ c, inert c → c ∉ k.constraints) :
    (ofSettled field rule).map relevant = (ofSettled field rule').map relevant := by
  have hkind : rule.kind = rule'.kind :=
    h.kind fun hc => Constraint.not_ofKinds_kind (hinert _ hc)
  have hrequired : rule.required = rule'.required :=
    h.required fun hc => Constraint.not_ofKinds_required (hinert _ hc)
  unfold ofSettled
  rw [← hkind]
  cases hk : rule.kind with
  | none => rfl
  | some k =>
    have used : ∀ {α : Type} {c : Constraint} {x x' : Option α}, (¬ inert c → x = x') →
        k.used c x = k.used c x' := by
      intro α c x x' hx
      unfold Kind.used
      split
      next hc => exact hx fun hinert => hother k hk c hinert hc
      next => rfl
    simp only [Except.map, relevant, hrequired, h.messages, used h.minLength, used h.maxLength,
      used h.pattern, used h.allowedValues, used h.minValue, used h.maxValue, used h.minDate,
      used h.customRule]

end Requirement

namespace Policy

theorem checker_relevant (p : Policy) (field : String) (r : Requirement) :
    p.checker field r.relevant = p.checker field r := by
  obtain ⟨kind, _, _, _, _, _, _, _, _, _, _⟩ := r
  cases kind <;> rfl

theorem shortfalls_relevant (p : Policy) (r : Requirement) :
    p.shortfalls r.relevant = p.shortfalls r := by
  obtain ⟨kind, _, _, _, _, _, _, _, _, _, _⟩ := r
  cases kind <;> rfl

end Policy

/-! ## Books that differ in inert constraints -/

namespace RuleBook

/-- The kind of the values of a field, once its reference is settled. -/
def kind? (b : RuleBook) (field : String) : Option Kind :=
  (b.fields.get? field).bind fun rule => (b.require field rule).toOption.map Requirement.kind

/-- **The constraint is inert on a field**: it belongs to kinds, and not to that of the field. -/
def InertOnField (b : RuleBook) (field : String) (c : Constraint) : Prop :=
  c.OfKinds ∧ ∀ k, b.kind? field = some k → c ∉ k.constraints

/-- **The constraint is inert on a definition**: it belongs to kinds, and it is inert on every field
that refers to the definition. -/
def InertOnDefinition (b : RuleBook) (name : String) (c : Constraint) : Prop :=
  c.OfKinds ∧
    ∀ field rule, b.fields.get? field = some rule → rule.Names name → b.InertOnField field c

/-- **Two books differ in inert constraints only.** -/
structure SameBesidesInert (b b' : RuleBook) : Prop where
  fields : Dict.Alike (fun field => Rule.SameBesides (b.InertOnField field)) b.fields b'.fields
  definitions :
    Dict.Alike (fun name => Rule.SameBesides (b.InertOnDefinition name)) b.definitions b'.definitions
  malformedFields : b.malformedFields = b'.malformedFields
  malformedDefinitions : b.malformedDefinitions = b'.malformedDefinitions

variable {b b' : RuleBook} {field : String} {rule rule' own : Rule}

/-- Why a rule cannot be written out is told by its reference and the definitions that were set
aside. -/
theorem require_congr_of_expand?_eq_none (h : b.expand? rule = none) (h' : b'.expand? rule' = none)
    (hreference : rule.reference = rule'.reference)
    (hmalformed : b.malformedDefinitions = b'.malformedDefinitions) :
    b.require field rule = b'.require field rule' := by
  unfold expand? at h h'
  unfold require Requirement.ofRule
  rw [← hreference] at h'
  rw [← hreference, ← hmalformed]
  cases hr : rule.reference with
  | none =>
    rw [hr] at h
    cases h
  | some reference =>
    rw [hr] at h h'
    cases hn : (Requirement.definitionName? reference).filter (· ≠ "") with
    | none => simp only [hn]
    | some name =>
      simp only [hn, Option.bind_some, Option.map_eq_none_iff] at h h'
      simp only [hn, h, h']

theorem kind?_of_expand? (hrule : b.fields.get? field = some rule) (h : b.expand? rule = some own) :
    b.kind? field = own.kind := by
  unfold kind?
  rw [hrule, Option.bind_some, require_of_expand?_eq_some h]
  unfold Requirement.ofSettled
  cases own.kind <;> rfl

/-- **Written out, the rules of a field differ in inert constraints only**, or none of them can be
written out. -/
theorem SameBesidesInert.expand? (h : b.SameBesidesInert b')
    (hrule : b.fields.get? field = some rule)
    (hsame : rule.SameBesides (b.InertOnField field) rule') :
    (b.expand? rule = none ∧ b'.expand? rule' = none) ∨
      ∃ own own' inert, b.expand? rule = some own ∧ b'.expand? rule' = some own' ∧
        own.SameBesides inert own' ∧ ∀ c, inert c → b.InertOnField field c := by
  unfold RuleBook.expand?
  rw [← hsame.reference]
  cases hr : rule.reference with
  | none => exact .inr ⟨rule, rule', _, rfl, rfl, hsame, fun _ hc => hc⟩
  | some reference =>
    cases hn : (Requirement.definitionName? reference).filter (· ≠ "") with
    | none => refine .inl ⟨?_, ?_⟩ <;> simp only [hn, Option.bind_none]
    | some name =>
      have hnames : rule.Names name := (Requirement.name_eq_some_iff hr).1 hn
      simp only [hn, Option.bind_some]
      rcases h.definitions.none_or_some name with ⟨hd, hd'⟩ | ⟨d, d', hd, hd', hdefinition⟩
      · rw [hd, hd']
        exact .inl ⟨rfl, rfl⟩
      · rw [hd, hd']
        exact .inr ⟨_, _, _, rfl, rfl, hsame.overlay hdefinition, fun c hc =>
          hc.elim id fun hlower => hlower.2 field rule hrule hnames⟩

/-- **What is asked of a field** by two books that differ in inert constraints only is the same, as
far as the kind of the field uses it. -/
theorem SameBesidesInert.require (h : b.SameBesidesInert b')
    (hrule : b.fields.get? field = some rule)
    (hsame : rule.SameBesides (b.InertOnField field) rule') :
    (b.require field rule).map Requirement.relevant =
      (b'.require field rule').map Requirement.relevant := by
  rcases h.expand? hrule hsame with
    ⟨hnone, hnone'⟩ | ⟨own, own', inert, hown, hown', hdiffer, hinert⟩
  · rw [require_congr_of_expand?_eq_none hnone hnone' hsame.reference h.malformedDefinitions]
  · rw [require_of_expand?_eq_some hown, require_of_expand?_eq_some hown']
    refine Requirement.relevant_ofSettled hdiffer (fun c hc => (hinert c hc).1) fun k hk c hc => ?_
    exact (hinert c hc).2 k ((kind?_of_expand? hrule hown).trans hk)

end RuleBook

namespace Policy

variable (p : Policy) {b b' : RuleBook}

/-- The checker of a requirement does not see constraints of other kinds. -/
theorem map_checker_relevant (field : String) (asked : Except Unresolved Requirement) :
    (asked.map Requirement.relevant).toOption.map (p.checker field) =
      asked.toOption.map (p.checker field) := by
  cases asked with
  | error cause => rfl
  | ok r => exact congrArg some (p.checker_relevant field r)

theorem remarksOn_relevant (field : String) (asked : Except Unresolved Requirement) :
    p.remarksOn field (asked.map Requirement.relevant) = p.remarksOn field asked := by
  cases asked with
  | error cause => rfl
  | ok r => exact congrArg (·.map (Remark.shortfall field)) (p.shortfalls_relevant r)

/-- **Two books that differ in inert constraints only have the same form.** -/
theorem form_congr (h : b.SameBesidesInert b') : p.form b = p.form b' := by
  refine form_eq h.fields h.malformedFields (fun field rule rule' hrule hsame => ?_)
    fun field rule rule' hrule hsame => ?_
  · rw [← map_checker_relevant, h.require hrule hsame, map_checker_relevant]
  · rw [← remarksOn_relevant, h.require hrule hsame, remarksOn_relevant]

end Policy

end FormCheck
