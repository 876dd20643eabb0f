import FormCheck.Proofs.Documents

/-!
# Every rule is accounted for

A rule of a document either gets a checker in the form, or is left out with one remark that says
why. Both sides are described on the documents, without the pipeline that makes the form:

The pipeline is `compile_json`. The causes are those of `resolve_field`, and the remarks are the
diagnostics with `drops_field`.

* `Usable` says when a rule tells what is asked of its field: it can be read, its reference (if it
  has one) names a definition that is there and can be read, and one of the two states a kind.
* `LeftOut` lists the causes, in the order in which they are looked for. The premises of a cause
  exclude the causes before it.

Results:
* `Requirement.ofJson_eq_ok_iff_usable`, `Requirement.ofJson_eq_error_iff`: the reading of one field
  succeeds on usable rules, and fails with the cause that `LeftOut` gives.
* **`formOfJson_accounts`**: which documents have no form; and of a form, that each rule has a
  checker or one dropping remark and never both, which of the two it is, and that the form keeps the
  order of the rules.
-/

namespace FormCheck

section

variable (definition? : String → Option Json)

/-- **A rule that tells what is asked of its field**, given the written definitions. -/
inductive Usable (v : Json) : Prop
  /-- It refers to nothing and states a kind. -/
  | alone {rule : Rule} (read : Rule.ofJson v = .ok rule) (unreferenced : rule.reference = none)
      (kind : rule.kind.isSome = true)
  /-- It refers to a definition, and one of the two states a kind. -/
  | inheriting {rule definition : Rule} {name : String} {d : Json} (read : Rule.ofJson v = .ok rule)
      (names : rule.Names name) (found : definition? name = some d)
      (readDefinition : Rule.ofJson d = .ok definition)
      (kind : rule.kind.isSome = true ∨ definition.kind.isSome = true)

/-- **Why a field is left out**, given the written definitions. -/
inductive LeftOut (field : String) (v : Json) : Unresolved → Prop
  | malformedRule {e : ShapeError} (unread : Rule.ofJson v = .error e) :
      LeftOut field v (.malformedRule field e.message)
  /-- The reference does not begin as one to a definition, or names nothing. -/
  | malformedReference {rule : Rule} {reference : String} (read : Rule.ofJson v = .ok rule)
      (referring : rule.reference = some reference) (nothing : ∀ name, ¬ rule.Names name) :
      LeftOut field v (.malformedReference field reference)
  | malformedDefinition {rule : Rule} {name : String} {d : Json} {e : ShapeError}
      (read : Rule.ofJson v = .ok rule) (names : rule.Names name)
      (found : definition? name = some d) (unread : Rule.ofJson d = .error e) :
      LeftOut field v (.malformedDefinition field (Rule.referenceStart ++ name) e.message)
  | missingDefinition {rule : Rule} {name : String} (read : Rule.ofJson v = .ok rule)
      (names : rule.Names name) (missing : definition? name = none) :
      LeftOut field v (.missingDefinition field (Rule.referenceStart ++ name))
  | missingKind {rule : Rule} (read : Rule.ofJson v = .ok rule)
      (unreferenced : rule.reference = none) (noKind : rule.kind = none) :
      LeftOut field v (.missingKind field)
  | missingKindInherited {rule definition : Rule} {name : String} {d : Json}
      (read : Rule.ofJson v = .ok rule) (names : rule.Names name)
      (found : definition? name = some d) (readDefinition : Rule.ofJson d = .ok definition)
      (noKind : rule.kind = none) (noKindInherited : definition.kind = none) :
      LeftOut field v (.missingKind field)

end

namespace Requirement

variable {definition? : String → Option Json} {field : String} {v : Json}

theorem ofSettled_eq_ok_of_isSome {rule : Rule} (h : rule.kind.isSome = true) :
    ∃ r, ofSettled field rule = .ok r := by
  unfold ofSettled
  cases hk : rule.kind with
  | none =>
    rw [hk] at h
    cases h
  | some kind => exact ⟨_, rfl⟩

/-! ## The reading of one field, case by case -/

theorem ofJson_alone {rule : Rule} (read : Rule.ofJson v = .ok rule)
    (unreferenced : rule.reference = none) :
    ofJson definition? field v = ofSettled field rule := by
  unfold ofJson
  simp only [read, unreferenced]

theorem ofJson_inheriting {rule definition : Rule} {name : String} {d : Json}
    (read : Rule.ofJson v = .ok rule) (names : rule.Names name) (found : definition? name = some d)
    (readDefinition : Rule.ofJson d = .ok definition) :
    ofJson definition? field v = ofSettled field (rule.overlay definition) := by
  unfold ofJson
  simp only [read, names.2, (name_eq_some_iff names.2).2 names, found, readDefinition]

/-- A cause that the documents give is the cause that is reported. -/
theorem ofJson_eq_error_of_leftOut {cause : Unresolved} (h : LeftOut definition? field v cause) :
    ofJson definition? field v = .error cause := by
  cases h with
  | malformedRule unread =>
    unfold ofJson
    simp only [unread]
  | @malformedReference rule reference read referring nothing =>
    have hn : (definitionName? reference).filter (· ≠ "") = none :=
      Option.eq_none_iff_forall_not_mem.2 fun name hname =>
        nothing name ((name_eq_some_iff referring).1 hname)
    unfold ofJson
    simp only [read, referring, hn]
  | malformedDefinition read names found unread =>
    unfold ofJson
    simp only [read, names.2, (name_eq_some_iff names.2).2 names, found, unread]
  | missingDefinition read names missing =>
    unfold ofJson
    simp only [read, names.2, (name_eq_some_iff names.2).2 names, missing]
  | missingKind read unreferenced noKind =>
    rw [ofJson_alone read unreferenced, ofSettled_eq_error_iff]
    exact ⟨noKind, rfl⟩
  | missingKindInherited read names found readDefinition noKind noKindInherited =>
    rw [ofJson_inheriting read names found readDefinition, ofSettled_eq_error_iff]
    exact ⟨by rw [Rule.overlay, noKind, noKindInherited, Option.or_none], rfl⟩

theorem ofJson_eq_ok_of_usable (h : Usable definition? v) :
    ∃ r, ofJson definition? field v = .ok r := by
  cases h with
  | alone read unreferenced kind =>
    rw [ofJson_alone read unreferenced]
    exact ofSettled_eq_ok_of_isSome kind
  | inheriting read names found readDefinition kind =>
    rw [ofJson_inheriting read names found readDefinition]
    refine ofSettled_eq_ok_of_isSome ?_
    rwa [Rule.overlay, Option.isSome_or, Bool.or_eq_true]

/-- **No rule falls between the two sides.** -/
theorem usable_or_leftOut (definition? : String → Option Json) (field : String) (v : Json) :
    Usable definition? v ∨ ∃ cause, LeftOut definition? field v cause := by
  cases read : Rule.ofJson v with
  | error e => exact Or.inr ⟨_, .malformedRule read⟩
  | ok rule =>
    cases referring : rule.reference with
    | none =>
      cases kind : rule.kind with
      | none => exact Or.inr ⟨_, .missingKind read referring kind⟩
      | some k => exact Or.inl (.alone read referring (by rw [kind]; rfl))
    | some reference =>
      by_cases named : ∃ name, rule.Names name
      case neg => exact Or.inr ⟨_, .malformedReference read referring (not_exists.1 named)⟩
      obtain ⟨name, names⟩ := named
      cases found : definition? name with
      | none => exact Or.inr ⟨_, .missingDefinition read names found⟩
      | some d =>
        cases readDefinition : Rule.ofJson d with
        | error e => exact Or.inr ⟨_, .malformedDefinition read names found readDefinition⟩
        | ok definition =>
          cases kind : rule.kind with
          | some k =>
            exact Or.inl (.inheriting read names found readDefinition (Or.inl (by rw [kind]; rfl)))
          | none =>
            cases inherited : definition.kind with
            | some k =>
              exact Or.inl
                (.inheriting read names found readDefinition (Or.inr (by rw [inherited]; rfl)))
            | none =>
              exact Or.inr ⟨_, .missingKindInherited read names found readDefinition kind inherited⟩

theorem ofJson_eq_ok_iff_usable :
    (∃ r, ofJson definition? field v = .ok r) ↔ Usable definition? v := by
  refine ⟨fun ⟨r, hr⟩ => ?_, ofJson_eq_ok_of_usable⟩
  rcases usable_or_leftOut definition? field v with h | ⟨cause, h⟩
  · exact h
  · rw [ofJson_eq_error_of_leftOut h] at hr
    cases hr

/-- A field is left out for the cause that the documents give. -/
theorem ofJson_eq_error_iff {cause : Unresolved} :
    ofJson definition? field v = .error cause ↔ LeftOut definition? field v cause := by
  refine ⟨fun hc => ?_, ofJson_eq_error_of_leftOut⟩
  rcases usable_or_leftOut definition? field v with h | ⟨cause', h⟩
  · have hok : ∃ r, ofJson definition? field v = .ok r := ofJson_eq_ok_of_usable h
    obtain ⟨r, hr⟩ := hok
    rw [hr] at hc
    cases hc
  · rw [ofJson_eq_error_of_leftOut h] at hc
    cases hc
    exact h

end Requirement

/-! ## The form -/

namespace Form

/-- The remarks that leave a field out. -/
def dropping (form : Form) (field : String) : List Remark :=
  (form.remarksOn field).filter Remark.dropsField

end Form

namespace Policy

variable {p : Policy} {rules definitions : Json} {form : Form}

/-- A rule that asks something has a checker and no dropping remark. -/
theorem kept_of_ofJson_eq_ok (h : p.formOfJson rules definitions = .ok form) {field : String}
    {v : Json} (hv : rules.member? field = some v) {r : Requirement}
    (hr : Requirement.ofJson (RuleBook.definition? definitions) field v = .ok r) :
    form.contains field = true ∧ form.dropping field = [] := by
  constructor
  · show (form.get? field).isSome = true
    rw [get?_of_formOfJson h, hv, Option.bind_some, hr]
    rfl
  · rw [Form.dropping, remarksOn_of_formOfJson h, hv, Option.map_some, Option.getD_some, hr,
      List.filter_eq_nil_iff]
    intro remark hm
    obtain ⟨part, -, rfl⟩ := List.mem_map.1 hm
    exact Bool.false_ne_true

/-- A rule that asks nothing has one dropping remark and no checker. -/
theorem dropped_of_ofJson_eq_error (h : p.formOfJson rules definitions = .ok form) {field : String}
    {v : Json} (hv : rules.member? field = some v) {cause : Unresolved}
    (hc : Requirement.ofJson (RuleBook.definition? definitions) field v = .error cause) :
    form.contains field = false ∧ form.dropping field = [.unresolved cause] := by
  constructor
  · show (form.get? field).isSome = false
    rw [get?_of_formOfJson h, hv, Option.bind_some, hc]
    rfl
  · rw [Form.dropping, remarksOn_of_formOfJson h, hv, Option.map_some, Option.getD_some, hc]
    rfl

theorem keys_of_formOfJson (h : p.formOfJson rules definitions = .ok form) :
    ∃ fields, rules.members? = some fields ∧
      form.checkers.keys = fields.keys.filter form.contains := by
  obtain ⟨fields, hf, -, rfl⟩ := (formOfJson_eq_ok_iff p).1 h
  exact ⟨fields, hf, Dict.keys_filterMap _ fields⟩

/-- **Every rule is accounted for.** Documents have no form exactly if they are not built as they
have to be, whatever their rules say. In a form each rule of the document has either a checker and
no dropping remark, or no checker and exactly one dropping remark, with the cause that the documents
give. It has a checker exactly if it is usable. The form has no other fields, and keeps them in the
order of the rules. -/
theorem formOfJson_accounts (p : Policy) (rules definitions : Json) :
    ((∃ e, p.formOfJson rules definitions = .error e) ↔
      ¬ rules.IsObject ∨ RuleBook.Misbuilt definitions) ∧
    ∀ form, p.formOfJson rules definitions = .ok form →
      (∀ field v, rules.member? field = some v →
        ((form.contains field = true ∧ form.dropping field = []) ∨
          (form.contains field = false ∧ ∃ cause, form.dropping field = [.unresolved cause] ∧
            LeftOut (RuleBook.definition? definitions) field v cause)) ∧
        (form.contains field = true ↔ Usable (RuleBook.definition? definitions) v)) ∧
      ∃ fields, rules.members? = some fields ∧
        form.checkers.keys = fields.keys.filter form.contains := by
  refine ⟨formOfJson_eq_error_iff p, fun form h => ⟨fun field v hv => ?_, keys_of_formOfJson h⟩⟩
  have husable : (∃ r, Requirement.ofJson (RuleBook.definition? definitions) field v = .ok r) ↔
      Usable (RuleBook.definition? definitions) v := Requirement.ofJson_eq_ok_iff_usable
  rw [← husable]
  cases hr : Requirement.ofJson (RuleBook.definition? definitions) field v with
  | ok r =>
    have hkept := kept_of_ofJson_eq_ok h hv hr
    exact ⟨Or.inl hkept, fun _ => ⟨r, rfl⟩, fun _ => hkept.1⟩
  | error cause =>
    have hdropped := dropped_of_ofJson_eq_error h hv hr
    refine ⟨Or.inr ⟨hdropped.1, cause, hdropped.2, Requirement.ofJson_eq_error_iff.1 hr⟩, ?_, ?_⟩
    · intro hc
      rw [hdropped.1] at hc
      cases hc
    · rintro ⟨r, hok⟩
      cases hok

end Policy

open Sample in
/-- Of two rules one has a checker, and the other is left out with one remark. -/
theorem formOfJson_accounts_amount_and_memo :
    ∃ form, policy.formOfJson rules definitions = .ok form ∧
      (rules.member? "amount" = some amount ∧ form.contains "amount" = true ∧
        form.dropping "amount" = [] ∧ Usable (RuleBook.definition? definitions) amount) ∧
      rules.member? "memo" = some memo ∧ form.contains "memo" = false ∧
        ∃ cause, form.dropping "memo" = [.unresolved cause] ∧
          LeftOut (RuleBook.definition? definitions) "memo" memo cause := by
  obtain ⟨hrules, -⟩ := (Policy.formOfJson_accounts policy rules definitions).2 _ rfl
  obtain ⟨hamount, husable⟩ := hrules "amount" amount rfl
  obtain ⟨hmemo, -⟩ := hrules "memo" memo rfl
  refine ⟨_, rfl, ⟨rfl, rfl, ?_, husable.1 rfl⟩, rfl, rfl, ?_⟩
  · rcases hamount with h | h
    · exact h.2
    · exact absurd h.1 (by decide +kernel)
  · rcases hmemo with h | h
    · exact absurd h.1 (by decide +kernel)
    · exact h.2

end FormCheck
