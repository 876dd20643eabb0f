import FormCheck.Form
import FormCheck.Text.Start

/-!
# Two documents, read field by field

A form is made from a document of rules and a document of definitions. On the way the rules are cut
into those of the right and those of the wrong shape, and so are the definitions; references are
settled among what is left, and causes are put right afterwards. This file reads the documents
without any of this: `Requirement.ofJson` says what they ask of one field, from the field's own rule
and the one definition that the rule names.

`Requirement.ofJson` stands for `from_json` followed by `resolve_field`, and `Policy.formOf` for
`compile_json`.

* `RuleBook.ofJson_eq_ok_iff`: which documents spell a book, and which book.
* `RuleBook.require_ofMembers`: what the book asks of a field is what the documents ask.
* **`Policy.formOfJson_eq_ok_iff`**: the form of two documents, field by field: `formOf` is one pass
  over the rules for the checkers, one for the rules of the wrong shape, and one for the remarks on
  the others.
* `Policy.get?_of_formOfJson`, `Policy.remarksOn_of_formOfJson`: what such a form holds for one name
  depends on the rule of that name and on nothing else in the document of rules.
-/

namespace FormCheck

namespace Json

/-- The value is an object. -/
def IsObject (v : Json) : Prop := ∃ members, v = .object members

theorem isObject_iff {v : Json} : v.IsObject ↔ ∃ members, v.members? = some members := by
  constructor
  · rintro ⟨members, rfl⟩
    exact ⟨_, rfl⟩
  · rintro ⟨members, h⟩
    cases v with
    | object members => exact ⟨members, rfl⟩
    | _ => cases h

theorem members?_eq_none_iff {v : Json} : v.members? = none ↔ ¬ v.IsObject := by
  rw [isObject_iff, Option.eq_none_iff_forall_not_mem, not_exists]
  rfl

end Json

/-! ## References -/

/-- The rule refers to the definition of the given name. -/
def Rule.Names (rule : Rule) (name : String) : Prop :=
  name ≠ "" ∧ rule.reference = some (Rule.referenceStart ++ name)

namespace Requirement

/-- A reference names what follows the common start. -/
theorem definitionName?_eq_some_iff {reference name : String} :
    definitionName? reference = some name ↔ reference = Rule.referenceStart ++ name :=
  Text.after?_eq_some_iff

theorem name_eq_some_iff {rule : Rule} {reference name : String}
    (hr : rule.reference = some reference) :
    (definitionName? reference).filter (· ≠ "") = some name ↔ rule.Names name := by
  rw [Option.filter_eq_some_iff, definitionName?_eq_some_iff, Rule.Names, hr, decide_eq_true_eq,
    Option.some.injEq]
  exact and_comm

/-- **What two documents ask of one field.** The field's rule is read, and then the definition that
it names, if it names one. -/
def ofJson (definition? : String → Option Json) (field : String) (v : Json) :
    Except Unresolved Requirement :=
  match Rule.ofJson v with
  | .error e => .error (.malformedRule field e.message)
  | .ok rule =>
    match rule.reference with
    | none => ofSettled field rule
    | some reference =>
      match (definitionName? reference).filter (· ≠ "") with
      | none => .error (.malformedReference field reference)
      | some name =>
        match definition? name with
        | none => .error (.missingDefinition field reference)
        | some d =>
          match Rule.ofJson d with
          | .error e => .error (.malformedDefinition field reference e.message)
          | .ok definition => ofSettled field (rule.overlay definition)

theorem ofSettled_eq_error_iff {field : String} {rule : Rule} {cause : Unresolved} :
    ofSettled field rule = .error cause ↔ rule.kind = none ∧ cause = .missingKind field := by
  unfold ofSettled
  cases rule.kind with
  | none => simp [eq_comm]
  | some kind => simp

/-- **Where a requirement comes from**: from a rule without a reference, or from a rule laid over the
definition that it names. -/
theorem ofJson_eq_ok_cases {definition? : String → Option Json} {field : String} {v : Json}
    {r : Requirement} (h : ofJson definition? field v = .ok r) :
    (∃ rule, Rule.ofJson v = .ok rule ∧ rule.reference = none ∧ ofSettled field rule = .ok r) ∨
    ∃ rule name d definition, Rule.ofJson v = .ok rule ∧ rule.Names name ∧
      definition? name = some d ∧ Rule.ofJson d = .ok definition ∧
      ofSettled field (rule.overlay definition) = .ok r := by
  unfold ofJson at h
  split at h
  · cases h
  · rename_i rule hrule
    split at h
    · rename_i hnone
      exact Or.inl ⟨rule, hrule, hnone, h⟩
    · rename_i reference hreference
      split at h
      · cases h
      · rename_i name hname
        split at h
        · cases h
        · rename_i d hd
          split at h
          · cases h
          · rename_i definition hdefinition
            exact Or.inr ⟨rule, name, d, definition, hrule, (name_eq_some_iff hreference).1 hname,
              hd, hdefinition, h⟩

theorem field_of_ofJson {definition? : String → Option Json} {field : String} {v : Json}
    {cause : Unresolved} (h : ofJson definition? field v = .error cause) : cause.field = field := by
  unfold ofJson at h
  split at h
  · cases h
    rfl
  · split at h
    · rw [(ofSettled_eq_error_iff.1 h).2]
      rfl
    · split at h
      · cases h
        rfl
      · split at h
        · cases h
          rfl
        · split at h
          · cases h
            rfl
          · rw [(ofSettled_eq_error_iff.1 h).2]
            rfl

end Requirement

/-! ## Books -/

namespace RuleBook

/-- The written definition of a name in a document of definitions. -/
def definition? (definitions : Json) (name : String) : Option Json :=
  (definitions.member? "definitions").bind (·.member? name)

/-- The book of the members of two documents. -/
def ofMembers (fields definitions : Dict Json) : RuleBook where
  fields := wellFormed fields
  definitions := wellFormed definitions
  malformedFields := illFormed fields
  malformedDefinitions := illFormed definitions

/-- A document of definitions that is not built as it has to be: it is neither `null` nor an
object, or its member of definitions is there and is neither of both. -/
def Misbuilt (definitions : Json) : Prop :=
  (definitions ≠ .null ∧ ¬ definitions.IsObject) ∨
    ∃ inner, definitions.member? "definitions" = some inner ∧ inner ≠ .null ∧ ¬ inner.IsObject

theorem definitionMembers_object (document : List (String × Json)) :
    definitionMembers (.object document) =
      match (Dict.ofList document).get? "definitions" with
      | none | some .null => .ok .empty
      | some inner =>
        match inner.members? with
        | some members => .ok members
        | none => .error (.malformed ("'definitions' must be an object, found " ++ inner.sort)) :=
  rfl

/-- A document of definitions that is built as it has to be gives its written definitions. -/
theorem get?_definitionMembers {definitions : Json} {members : Dict Json}
    (h : definitionMembers definitions = .ok members) : members.get? = definition? definitions := by
  funext name
  cases definitions with
  | null =>
    cases h
    rfl
  | object document =>
    rw [definitionMembers_object] at h
    show _ = ((Dict.ofList document).get? "definitions").bind (·.member? name)
    cases hd : (Dict.ofList document).get? "definitions" with
    | none =>
      rw [hd] at h
      cases h
      rfl
    | some inner =>
      rw [hd] at h
      cases inner <;> cases h <;> rfl
  | _ => cases h

/-- No definitions can be taken from a document exactly if it is not built as it has to be. -/
theorem definitionMembers_eq_error_iff {definitions : Json} :
    (∃ e, definitionMembers definitions = .error e) ↔ Misbuilt definitions := by
  unfold Misbuilt
  cases definitions with
  | null => simp [definitionMembers, Json.member?, Json.members?]
  | object document =>
    have hobject : (Json.object document).IsObject := ⟨document, rfl⟩
    have hmember : (Json.object document).member? "definitions" =
        (Dict.ofList document).get? "definitions" := rfl
    rw [definitionMembers_object, hmember]
    cases hd : (Dict.ofList document).get? "definitions" with
    | none => simp [hobject]
    | some inner => cases inner <;> simp [Json.IsObject, Json.members?]
  | _ => simp [definitionMembers, Json.members?, Json.IsObject]

/-- **No book can be read** exactly if the rules are no object, or the document of definitions is
not built as it has to be. Nothing inside a rule matters. -/
theorem ofJson_eq_error_iff {rules definitions : Json} :
    (∃ e, ofJson rules definitions = .error e) ↔ ¬ rules.IsObject ∨ Misbuilt definitions := by
  rw [← definitionMembers_eq_error_iff, ← Json.members?_eq_none_iff]
  unfold ofJson
  cases rules.members? with
  | none => simp
  | some fields => cases definitionMembers definitions <;> simp

theorem ofJson_eq_ok_iff {rules definitions : Json} {b : RuleBook} :
    ofJson rules definitions = .ok b ↔
      ∃ fields members, rules.members? = some fields ∧
        definitionMembers definitions = .ok members ∧ b = ofMembers fields members := by
  unfold ofJson
  cases hr : rules.members? with
  | none => simp
  | some fields =>
    cases hd : definitionMembers definitions with
    | error e => simp
    | ok members => simp [ofMembers, eq_comm]

theorem get?_wellFormed (members : Dict Json) (name : String) :
    (wellFormed members).get? name = (members.get? name).bind fun v => (Rule.ofJson v).toOption :=
  Dict.get?_filterMap _ members name

theorem get?_illFormed (members : Dict Json) (name : String) :
    (illFormed members).get? name =
      (members.get? name).bind fun v =>
        match Rule.ofJson v with
        | .ok _ => none
        | .error e => some e.message :=
  Dict.get?_filterMap _ members name

/-- **What a book asks of a field is what its documents ask.** -/
theorem require_ofMembers (fields definitions : Dict Json) (field : String) {v : Json} {rule : Rule}
    (h : Rule.ofJson v = .ok rule) :
    (ofMembers fields definitions).require field rule =
      Requirement.ofJson definitions.get? field v := by
  unfold require Requirement.ofRule Requirement.ofJson
  simp only [h]
  cases hr : rule.reference with
  | none =>
    simp only [Requirement.ofSettled]
    cases rule.kind <;> rfl
  | some reference =>
    cases hn : (Requirement.definitionName? reference).filter (· ≠ "") with
    | none => simp only [hn]
    | some name =>
      have hname := (Option.filter_eq_some_iff.1 hn).1
      simp only [hn, ofMembers, get?_wellFormed]
      cases hd : definitions.get? name with
      | none => simp [hname, get?_illFormed, hd]
      | some d =>
        cases hdr : Rule.ofJson d with
        | error e => simp [hname, get?_illFormed, hd, hdr, Except.toOption]
        | ok definition =>
          simp only [Option.bind_some, hdr, Except.toOption, Requirement.ofSettled]
          cases (rule.overlay definition).kind <;> rfl

end RuleBook

/-! ## Forms -/

namespace Policy

/-- The remark on a rule of the wrong shape. -/
def setAside (field : String) (v : Json) : List Remark :=
  match Rule.ofJson v with
  | .ok _ => []
  | .error e => [.unresolved (.malformedRule field e.message)]

/-- The remarks on a rule of the right shape. -/
def remarksOnRule (p : Policy) (definition? : String → Option Json) (field : String) (v : Json) :
    List Remark :=
  match Rule.ofJson v with
  | .ok _ => p.remarksOn field (Requirement.ofJson definition? field v)
  | .error _ => []

/-- **The form of written rules**, made in one pass over the rules for the checkers, one for the
rules of the wrong shape, and one for the remarks on the others. -/
def formOf (p : Policy) (definition? : String → Option Json) (fields : Dict Json) : Form where
  checkers := fields.filterMap fun field v =>
    (Requirement.ofJson definition? field v).toOption.map (p.checker field)
  remarks :=
    (fields.entries.flatMap fun e => setAside e.1 e.2) ++
      fields.entries.flatMap fun e => p.remarksOnRule definition? e.1 e.2

variable (p : Policy) (fields definitions : Dict Json)

theorem checkers_form_ofMembers :
    (p.form (RuleBook.ofMembers fields definitions)).checkers =
      (p.formOf definitions.get? fields).checkers := by
  show (RuleBook.wellFormed fields).filterMap _ = _
  rw [RuleBook.wellFormed, Dict.filterMap_filterMap]
  unfold formOf
  congr 1
  funext field v
  cases h : Rule.ofJson v with
  | error e => simp [Except.toOption, Requirement.ofJson, h]
  | ok rule =>
    rw [← RuleBook.require_ofMembers fields definitions field h]
    rfl

theorem remarks_form_ofMembers :
    (p.form (RuleBook.ofMembers fields definitions)).remarks =
      (p.formOf definitions.get? fields).remarks := by
  show (RuleBook.illFormed fields).entries.map _ ++
    (RuleBook.wellFormed fields).entries.flatMap _ = _
  rw [List.map_eq_flatMap]
  unfold RuleBook.illFormed RuleBook.wellFormed Dict.filterMap
  rw [Dict.flatMap_pickEntries, Dict.flatMap_pickEntries]
  unfold formOf
  congr 1
  · congr 1
    funext e
    unfold setAside
    cases Rule.ofJson e.2 <;> rfl
  · congr 1
    funext e
    unfold remarksOnRule
    cases h : Rule.ofJson e.2 with
    | error err => rfl
    | ok rule =>
      simp only [← RuleBook.require_ofMembers fields definitions e.1 h]
      rfl

/-- **Cutting the documents into parts makes no difference.** -/
theorem form_ofMembers :
    p.form (RuleBook.ofMembers fields definitions) = p.formOf definitions.get? fields := by
  have hc := checkers_form_ofMembers p fields definitions
  have hr := remarks_form_ofMembers p fields definitions
  cases hf : p.form (RuleBook.ofMembers fields definitions) with
  | mk checkers remarks =>
    rw [hf] at hc hr
    simp only at hc hr
    rw [hc, hr]

/-- The documents that have a form, and the form that they have. -/
theorem formOfJson_eq_ok_iff {rules definitions : Json} {form : Form} :
    p.formOfJson rules definitions = .ok form ↔
      ∃ fields, rules.members? = some fields ∧ ¬ RuleBook.Misbuilt definitions ∧
        form = p.formOf (RuleBook.definition? definitions) fields := by
  unfold formOfJson
  constructor
  · intro h
    cases hb : RuleBook.ofJson rules definitions with
    | error e =>
      rw [hb] at h
      cases h
    | ok b =>
      rw [hb] at h
      cases h
      obtain ⟨fields, members, hf, hm, rfl⟩ := RuleBook.ofJson_eq_ok_iff.1 hb
      refine ⟨fields, hf, fun hbad => ?_, ?_⟩
      · obtain ⟨e, he⟩ := RuleBook.definitionMembers_eq_error_iff.2 hbad
        rw [hm] at he
        cases he
      · rw [form_ofMembers, RuleBook.get?_definitionMembers hm]
  · rintro ⟨fields, hf, hbuilt, rfl⟩
    cases hm : RuleBook.definitionMembers definitions with
    | error e => exact absurd (RuleBook.definitionMembers_eq_error_iff.1 ⟨e, hm⟩) hbuilt
    | ok members =>
      rw [RuleBook.ofJson_eq_ok_iff.2 ⟨fields, members, hf, hm, rfl⟩,
        ← RuleBook.get?_definitionMembers hm, ← form_ofMembers]
      rfl

theorem formOfJson_eq_error_iff {rules definitions : Json} :
    (∃ e, p.formOfJson rules definitions = .error e) ↔
      ¬ rules.IsObject ∨ RuleBook.Misbuilt definitions := by
  rw [← RuleBook.ofJson_eq_error_iff]
  unfold formOfJson
  cases RuleBook.ofJson rules definitions <;> simp [Except.map]

/-! ## One name of a form -/

variable {definition? : String → Option Json}

theorem get?_formOf (field : String) :
    (p.formOf definition? fields).get? field =
      (fields.get? field).bind fun v =>
        (Requirement.ofJson definition? field v).toOption.map (p.checker field) :=
  Dict.get?_filterMap _ fields field

theorem field_of_mem_setAside {field : String} {v : Json} {remark : Remark}
    (h : remark ∈ setAside field v) : remark.field = field := by
  unfold setAside at h
  split at h
  · cases h
  · rw [List.mem_singleton.1 h]
    rfl

theorem field_of_mem_remarksOnRule {field : String} {v : Json} {remark : Remark}
    (h : remark ∈ p.remarksOnRule definition? field v) : remark.field = field := by
  unfold remarksOnRule at h
  split at h
  · unfold remarksOn at h
    split at h
    · obtain ⟨part, -, rfl⟩ := List.mem_map.1 h
      rfl
    · rename_i cause hc
      rw [List.mem_singleton.1 h]
      exact Requirement.field_of_ofJson hc
  · cases h

theorem remarksOn_formOf (field : String) :
    (p.formOf definition? fields).remarksOn field =
      ((fields.get? field).map fun v =>
        p.remarksOn field (Requirement.ofJson definition? field v)).getD [] := by
  have haside := Dict.filter_flatMap_entries Remark.field setAside
    (fun _ _ _ hx => field_of_mem_setAside hx) fields field
  have hrule := Dict.filter_flatMap_entries Remark.field (p.remarksOnRule definition?)
    (fun _ _ _ hx => field_of_mem_remarksOnRule p hx) fields field
  unfold Form.remarksOn formOf
  rw [List.filter_append, haside, hrule]
  cases fields.get? field with
  | none => rfl
  | some v =>
    cases h : Rule.ofJson v with
    | error e => simp [setAside, remarksOnRule, Requirement.ofJson, h, remarksOn]
    | ok rule => simp [setAside, remarksOnRule, h]

section FormOfJson

variable {p} {rules definitions : Json} {form : Form}

theorem exists_formOfJson_iff :
    (∃ form, p.formOfJson rules definitions = .ok form) ↔
      rules.IsObject ∧ ¬ RuleBook.Misbuilt definitions := by
  simp only [formOfJson_eq_ok_iff, Json.isObject_iff]
  constructor
  · rintro ⟨form, fields, hfields, hbuilt, -⟩
    exact ⟨⟨fields, hfields⟩, hbuilt⟩
  · rintro ⟨⟨fields, hfields⟩, hbuilt⟩
    exact ⟨_, fields, hfields, hbuilt, rfl⟩

/-- The checker of a name is that of the rule of the name. -/
theorem get?_of_formOfJson (h : p.formOfJson rules definitions = .ok form) (field : String) :
    form.get? field =
      (rules.member? field).bind fun v =>
        (Requirement.ofJson (RuleBook.definition? definitions) field v).toOption.map (p.checker field) := by
  obtain ⟨fields, hf, -, rfl⟩ := (formOfJson_eq_ok_iff p).1 h
  rw [get?_formOf, Json.member?, hf, Option.bind_some]

/-- The remarks on a name are those on the rule of the name. -/
theorem remarksOn_of_formOfJson (h : p.formOfJson rules definitions = .ok form) (field : String) :
    form.remarksOn field =
      ((rules.member? field).map fun v =>
        p.remarksOn field
          (Requirement.ofJson (RuleBook.definition? definitions) field v)).getD [] := by
  obtain ⟨fields, hf, -, rfl⟩ := (formOfJson_eq_ok_iff p).1 h
  rw [remarksOn_formOf, Json.member?, hf, Option.bind_some]

end FormOfJson

end Policy

/-! ## Two documents -/

namespace Sample

/-- A policy with the settings that hold from the start. -/
def policy : Policy := { today := Date.newYear 2025 }

/-- A rule that inherits its kind. -/
def amount : Json := .object [("$ref", .text "#/definitions/money"), ("required", .bool true)]

/-- A rule that refers to a definition of the wrong shape. -/
def memo : Json := .object [("type", .text "string"), ("$ref", .text "#/definitions/note")]

def rules : Json := .object [("amount", amount), ("memo", memo)]

def definitions : Json :=
  .object
    [("definitions", .object [("money", .object [("type", .text "number")]), ("note", .bool true)])]

end Sample

end FormCheck
