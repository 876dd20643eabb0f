import FormCheck.Proofs.Documents

/-!
# References as abbreviations

A rule that refers to a definition could as well be written out. `RuleBook.inlined` writes out every
rule of a book that can be settled: it lays the rule over the definition that it names, leaves out
the fields that cannot be settled, and keeps no definitions. The book that is left has no references
at all, so it also shows that references of definitions play no part, be they circular or not.

`RuleBook.inlined` does once and for all what `resolve_field` does for each field.

* `RuleBook.require_eq_ok_iff`: a book settles a rule by writing it out, and then needs no definition
  any more (`RuleBook.require_of_expand?`).
* `RuleBook.inlined_inlined`: what is written out stays as it is.
* `Policy.form_withReferences`: references of definitions may be changed at will.
* **`Policy.form_inlined`**: the form of the book written out is that of the book, up to the remarks
  on the fields that were left out.
-/

namespace FormCheck

/-! ## Writing out -/

namespace RuleBook

/-- **A rule written out**: laid over the definition to which it refers, if it refers to one. A
reference that names no definition cannot be written out. -/
def expand? (b : RuleBook) (rule : Rule) : Option Rule :=
  match rule.reference with
  | none => some rule
  | some reference =>
    ((Requirement.definitionName? reference).filter (· ≠ "")).bind fun name =>
      (b.definitions.get? name).map rule.overlay

/-- **The book written out**: the rules that can be settled, each without its reference, and no
definitions. -/
def inlined (b : RuleBook) : RuleBook where
  fields := b.fields.filterMap fun field rule =>
    if (b.require field rule).isOk then b.expand? rule else none

/-- The book with other references in its definitions. -/
def withReferences (b : RuleBook) (refs : String → Rule → Option String) : RuleBook :=
  { b with definitions := b.definitions.mapValues fun name d => { d with reference := refs name d } }

variable {b : RuleBook} {field : String} {rule rule' : Rule} {r : Requirement}

theorem reference_of_expand? (h : b.expand? rule = some rule') : rule'.reference = none := by
  unfold expand? at h
  split at h
  · rename_i hnone
    exact Option.some.inj h ▸ hnone
  · obtain ⟨name, -, h⟩ := Option.bind_eq_some_iff.1 h
    obtain ⟨definition, -, rfl⟩ := Option.map_eq_some_iff.1 h
    rfl

theorem expand?_of_reference (h : rule.reference = none) : b.expand? rule = some rule := by
  unfold expand?
  rw [h]

theorem require_of_expand?_eq_some (h : b.expand? rule = some rule') :
    b.require field rule = Requirement.ofSettled field rule' := by
  have hrule : Requirement.ofRule field rule b.definitions = Requirement.ofSettled field rule' := by
    unfold expand? at h
    unfold Requirement.ofRule
    cases hr : rule.reference with
    | none =>
      rw [hr] at h
      rw [Option.some.inj h]
    | some reference =>
      rw [hr] at h
      obtain ⟨name, hname, hmap⟩ := Option.bind_eq_some_iff.1 h
      obtain ⟨d, hd, rfl⟩ := Option.map_eq_some_iff.1 hmap
      simp only [hname, hd]
  unfold require
  rw [hrule]
  unfold Requirement.ofSettled
  cases rule'.kind <;> rfl

/-- A rule without a reference is settled alone, whatever the book holds. -/
theorem require_of_reference (h : rule.reference = none) :
    b.require field rule = Requirement.ofSettled field rule :=
  require_of_expand?_eq_some (expand?_of_reference h)

/-- A book only puts causes of failure right. -/
theorem require_eq_ok_iff_ofRule :
    b.require field rule = .ok r ↔ Requirement.ofRule field rule b.definitions = .ok r := by
  unfold require
  cases Requirement.ofRule field rule b.definitions with
  | ok r' => exact Iff.rfl
  | error cause =>
    cases cause with
    | missingDefinition field' reference =>
      simp only [reduceCtorEq, iff_false]
      split <;> simp
    | _ => exact Iff.rfl

/-- **A rule is settled by writing it out.** -/
theorem require_eq_ok_iff :
    b.require field rule = .ok r ↔
      ∃ rule', b.expand? rule = some rule' ∧ Requirement.ofSettled field rule' = .ok r := by
  rw [require_eq_ok_iff_ofRule]
  unfold Requirement.ofRule expand?
  cases rule.reference with
  | none => simp
  | some reference =>
    cases hn : (Requirement.definitionName? reference).filter (· ≠ "") with
    | none => simp only [hn, Option.bind_none, reduceCtorEq, false_and, exists_false]
    | some name =>
      simp only [hn, Option.bind_some]
      cases b.definitions.get? name <;> simp

/-- What is written out is settled in the same way by every book. -/
theorem require_of_expand? (h : b.expand? rule = some rule') (hr : b.require field rule = .ok r)
    (b' : RuleBook) : b'.require field rule' = .ok r := by
  obtain ⟨rule'', hexpand, hsettled⟩ := require_eq_ok_iff.1 hr
  rw [h] at hexpand
  cases hexpand
  rw [require_of_reference (reference_of_expand? h), hsettled]

theorem get?_fields_inlined (b : RuleBook) (field : String) :
    b.inlined.fields.get? field = (b.fields.get? field).bind fun rule =>
      if (b.require field rule).isOk then b.expand? rule else none :=
  Dict.get?_filterMap _ b.fields field

theorem get?_fields_inlined_of_require (hrule : b.fields.get? field = some rule)
    (hr : b.require field rule = .ok r) :
    ∃ rule', b.inlined.fields.get? field = some rule' ∧ b.expand? rule = some rule' := by
  obtain ⟨rule', hexpand, -⟩ := require_eq_ok_iff.1 hr
  refine ⟨rule', ?_, hexpand⟩
  rw [get?_fields_inlined, hrule, Option.bind_some, hr]
  exact hexpand

/-- **Writing out once is enough.** -/
theorem inlined_inlined (b : RuleBook) : b.inlined.inlined = b.inlined := by
  have hfields : b.inlined.inlined.fields = b.inlined.fields := by
    show (b.fields.filterMap _).filterMap _ = b.fields.filterMap _
    rw [Dict.filterMap_filterMap]
    congr 1
    funext field rule
    cases hr : b.require field rule with
    | error cause => rfl
    | ok r =>
      obtain ⟨rule', hexpand, -⟩ := require_eq_ok_iff.1 hr
      have href := reference_of_expand? hexpand
      have hr' := require_of_expand? hexpand hr b.inlined
      simp only [Except.isOk, Except.toBool, if_true, hexpand, Option.bind_some, hr',
        expand?_of_reference href]
  show ({ fields := b.inlined.inlined.fields } : RuleBook) = { fields := b.inlined.fields }
  rw [hfields]

end RuleBook

/-! ## The form of the book written out -/

/-- The remarks that leave their field in the form. -/
def Form.sparing (form : Form) : List Remark := form.remarks.filter fun remark => !remark.dropsField

namespace Policy

variable (p : Policy) (b : RuleBook)

/-- What the book written out says of a field is what the book says of it. -/
theorem require_inlined (field : String) (rule : Rule) :
    (if (b.require field rule).isOk then b.expand? rule else none).bind
        (fun rule' => (b.inlined.require field rule').toOption) =
      (b.require field rule).toOption := by
  cases hr : b.require field rule with
  | error cause => rfl
  | ok r =>
    obtain ⟨rule', hexpand, -⟩ := RuleBook.require_eq_ok_iff.1 hr
    have hr' := RuleBook.require_of_expand? hexpand hr b.inlined
    simp only [Except.isOk, Except.toBool, if_true, hexpand, Option.bind_some, hr']

theorem checkers_form_inlined : (p.form b.inlined).checkers = (p.form b).checkers := by
  show (b.fields.filterMap _).filterMap _ = b.fields.filterMap _
  rw [Dict.filterMap_filterMap]
  congr 1
  funext field rule
  rw [← require_inlined b field rule, Option.map_bind]
  rfl

theorem fields_form_inlined : (p.form b.inlined).fields = b.inlined.fields.keys := by
  show (b.inlined.fields.filterMap _).keys = _
  rw [Dict.keys_filterMap, List.filter_eq_self]
  intro field hfield
  obtain ⟨rule', hrule'⟩ := Option.isSome_iff_exists.1 (Dict.contains_iff.2 hfield)
  rw [Dict.contains, Dict.get?_filterMap, hrule', Option.bind_some]
  rw [RuleBook.get?_fields_inlined, Option.bind_eq_some_iff] at hrule'
  obtain ⟨rule, -, hrule'⟩ := hrule'
  cases hr : b.require field rule with
  | error cause =>
    rw [hr] at hrule'
    cases hrule'
  | ok r =>
    rw [hr] at hrule'
    rw [RuleBook.require_of_expand? hrule' hr]
    rfl

theorem filter_remarksOn (field : String) (asked : Except Unresolved Requirement) :
    (p.remarksOn field asked).filter (fun remark => !remark.dropsField) =
      (asked.toOption.map fun r => p.remarksOn field (.ok r)).getD [] := by
  cases asked with
  | error cause => rfl
  | ok r =>
    refine List.filter_eq_self.2 fun remark hremark => ?_
    obtain ⟨part, -, rfl⟩ := List.mem_map.1 hremark
    rfl

/-- The book written out leaves nothing to remark on but what leaves its field in the form. -/
theorem remarks_form_inlined : (p.form b.inlined).remarks = (p.form b).sparing := by
  have hinlined : (p.form b.inlined).remarks =
      b.inlined.fields.entries.flatMap fun e => p.remarksOn e.1 (b.inlined.require e.1 e.2) := rfl
  have hform : (p.form b).remarks =
      (b.malformedFields.entries.map fun e => .unresolved (.malformedRule e.1 e.2)) ++
        b.fields.entries.flatMap fun e => p.remarksOn e.1 (b.require e.1 e.2) := rfl
  have haside : (b.malformedFields.entries.map fun e =>
      Remark.unresolved (.malformedRule e.1 e.2)).filter (fun remark => !remark.dropsField) = [] := by
    rw [List.filter_eq_nil_iff]
    intro remark hremark
    obtain ⟨e, -, rfl⟩ := List.mem_map.1 hremark
    exact Bool.false_ne_true
  have hentries : b.inlined.fields.entries =
      Dict.pickEntries (fun field rule =>
        if (b.require field rule).isOk then b.expand? rule else none) b.fields.entries := rfl
  rw [hinlined, hentries, Dict.flatMap_pickEntries, Form.sparing, hform, List.filter_append, haside,
    List.nil_append, List.filter_flatMap]
  congr 1
  funext e
  rw [filter_remarksOn]
  cases hr : b.require e.1 e.2 with
  | error cause => rfl
  | ok r =>
    obtain ⟨rule', hexpand, -⟩ := RuleBook.require_eq_ok_iff.1 hr
    have hr' := RuleBook.require_of_expand? hexpand hr b.inlined
    simp only [Except.isOk, Except.toBool, if_true, hexpand, Option.map_some, Option.getD_some, hr',
      Except.toOption]

/-! ## References of definitions -/

theorem require_withReferences (refs : String → Rule → Option String) (field : String)
    (rule : Rule) : (b.withReferences refs).require field rule = b.require field rule := by
  have hrule : Requirement.ofRule field rule (b.withReferences refs).definitions =
      Requirement.ofRule field rule b.definitions := by
    unfold Requirement.ofRule RuleBook.withReferences
    cases rule.reference with
    | none => rfl
    | some reference =>
      cases hn : (Requirement.definitionName? reference).filter (· ≠ "") with
      | none => simp only [hn]
      | some name =>
        simp only [hn, Dict.get?_mapValues]
        cases b.definitions.get? name <;> rfl
  unfold RuleBook.require
  rw [hrule]
  rfl

/-- **References of definitions are not followed**: a book has the same form whatever they are. -/
theorem form_withReferences (refs : String → Rule → Option String) :
    p.form (b.withReferences refs) = p.form b := by
  unfold form
  simp only [require_withReferences]
  rfl

/-- **References are abbreviations.** In the book written out every field has a checker, and the form
has the fields of the book's form, in their order, with the same answers for all values. It remarks
on nothing but what the form of the book remarks on without leaving out a field. References of
definitions play no part. Writing out twice is writing out once, and a rule that is written out is
settled in the same way by every book. -/
theorem form_inlined :
    (p.form b.inlined).fields = b.inlined.fields.keys ∧
    (p.form b.inlined).fields = (p.form b).fields ∧
    (∀ field v, (p.form b.inlined).verdict field v = (p.form b).verdict field v) ∧
    (p.form b.inlined).remarks = (p.form b).sparing ∧
    (p.form b.inlined).sparing = (p.form b).sparing ∧
    (∀ refs, p.form (b.withReferences refs) = p.form b) ∧
    b.inlined.inlined = b.inlined ∧
    ∀ field rule r, b.fields.get? field = some rule → b.require field rule = .ok r →
      ∃ rule', b.inlined.fields.get? field = some rule' ∧ b.expand? rule = some rule' ∧
        ∀ b' : RuleBook, b'.require field rule' = .ok r := by
  have hcheckers := checkers_form_inlined p b
  have hremarks := remarks_form_inlined p b
  refine ⟨fields_form_inlined p b, congrArg Dict.keys hcheckers, fun field v => ?_, hremarks, ?_,
    form_withReferences p b, RuleBook.inlined_inlined b, fun field rule r hrule hr => ?_⟩
  · rw [Form.verdict, Form.verdict, Form.get?, Form.get?, hcheckers]
  · rw [Form.sparing, hremarks, Form.sparing, List.filter_filter]
    simp only [Bool.and_self]
  · obtain ⟨rule', hrule', hexpand⟩ := RuleBook.get?_fields_inlined_of_require hrule hr
    exact ⟨rule', hrule', hexpand, RuleBook.require_of_expand? hexpand hr⟩

end Policy

namespace Sample

/-- An amount whose definition refers to itself, and a memo whose definition is missing. -/
def circularBook : RuleBook where
  fields := .ofList
    [("amount", { Rule.referring "money" with required := some true }),
      ("memo", Rule.referring "note")]
  definitions := .ofList
    [("money", { Rule.ofKind .number with reference := some "#/definitions/money" })]

end Sample

open Sample in
/-- The amount is written out over its definition, which is taken as it stands. -/
theorem form_inlined_circularBook :
    ∃ rule rule' r, circularBook.fields.get? "amount" = some rule ∧
      circularBook.require "amount" rule = .ok r ∧
      circularBook.inlined.fields.get? "amount" = some rule' ∧
      circularBook.expand? rule = some rule' ∧
      ∀ b' : RuleBook, b'.require "amount" rule' = .ok r := by
  obtain ⟨-, -, -, -, -, -, -, hrules⟩ := Policy.form_inlined policy circularBook
  obtain ⟨rule', hrule', hexpand, hrequire⟩ := hrules "amount" _ _ rfl rfl
  exact ⟨_, rule', _, rfl, rfl, hrule', hexpand, hrequire⟩

end FormCheck
