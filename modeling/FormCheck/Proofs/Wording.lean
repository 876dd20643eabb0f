import FormCheck.Proofs.Remarks
import FormCheck.Proofs.WrittenRules

/-!
# Messages decide nothing

The templates of rules word failures. Whatever stands under their keys, be it a text or not, the same
fields get checkers, the same is remarked on (messages themselves apart), and the same values are
rejected for the same reasons.

Forms are made by `compile_json`, and answers worded by the `finish` of a validator.

The proof takes the messages out: of written rules (`Json.wordless`), of what is read from them, and
of the form that is made of it. Each stage from documents to a form commutes with this
(`Rule.ofJson_wordless`, `Requirement.ofJson_wordless`, `Policy.formOf_wordless`), so documents that
are equal without their messages have forms that are equal without their messages.

* `Checker.sameButMessage_verdict`: checkers that are equal without their messages differ in the
  messages of failures only.
* **`Policy.formOfJson_sameButMessages`**: this for the forms of any two pairs of documents that are
  equal without their messages.
-/

namespace FormCheck

/-! ## Documents without messages -/

namespace Json

/-- An object with other members; a value that is no object stays as it is. -/
def mapMembers (change : Dict Json → Dict Json) (v : Json) : Json :=
  match v.members? with
  | some members => .object (change members).entries
  | none => v

/-- **A written rule without its messages**: without the members whose keys begin like those of
messages, whatever their values are. -/
def wordless : Json → Json :=
  mapMembers fun members => members.filterMap fun key v =>
    if Messages.isKey key then none else some v

/-- A document of rules in which each rule is without its messages. -/
def wordlessRules : Json → Json :=
  mapMembers fun members => members.mapValues fun _ v => v.wordless

/-- A document of definitions in which each definition is without its messages. -/
def wordlessDefinitions : Json → Json :=
  mapMembers fun members => members.mapValues fun key v =>
    if key = "definitions" then v.wordlessRules else v

theorem members?_mapMembers (change : Dict Json → Dict Json) (v : Json) :
    (v.mapMembers change).members? = v.members?.map change := by
  unfold mapMembers
  cases hm : v.members? with
  | none => exact hm
  | some members => exact congrArg some (Dict.ofList_entries _)

theorem mapMembers_of_members?_eq_none (change : Dict Json → Dict Json) {v : Json}
    (h : v.members? = none) : v.mapMembers change = v := by
  unfold mapMembers
  rw [h]

theorem isObject_mapMembers (change : Dict Json → Dict Json) (v : Json) :
    (v.mapMembers change).IsObject ↔ v.IsObject := by
  rw [isObject_iff, isObject_iff, members?_mapMembers]
  cases v.members? <;> simp

theorem mapMembers_eq_null_iff (change : Dict Json → Dict Json) (v : Json) :
    v.mapMembers change = .null ↔ v = .null := by
  cases v with
  | object members => simp [mapMembers, members?]
  | _ => exact Iff.rfl

theorem member?_wordlessRules (v : Json) (key : String) :
    v.wordlessRules.member? key = (v.member? key).map wordless := by
  rw [member?, member?, wordlessRules, members?_mapMembers]
  cases v.members? with
  | none => rfl
  | some members => exact Dict.get?_mapValues _ members key

theorem member?_wordlessDefinitions (v : Json) :
    v.wordlessDefinitions.member? "definitions" =
      (v.member? "definitions").map wordlessRules := by
  rw [member?, member?, wordlessDefinitions, members?_mapMembers]
  cases v.members? with
  | none => rfl
  | some members => exact Dict.get?_mapValues _ members "definitions"

end Json

namespace RuleBook

theorem definition?_wordlessDefinitions (definitions : Json) :
    definition? definitions.wordlessDefinitions =
      fun name => (definition? definitions name).map Json.wordless := by
  funext name
  rw [definition?, definition?, Json.member?_wordlessDefinitions]
  cases definitions.member? "definitions" with
  | none => rfl
  | some inner => exact Json.member?_wordlessRules inner name

theorem misbuilt_wordlessDefinitions (definitions : Json) :
    Misbuilt definitions.wordlessDefinitions ↔ Misbuilt definitions := by
  unfold Misbuilt
  rw [Json.member?_wordlessDefinitions, Json.wordlessDefinitions, Json.isObject_mapMembers, ne_eq,
    Json.mapMembers_eq_null_iff]
  cases definitions.member? "definitions" with
  | none => simp
  | some inner =>
    simp [Json.wordlessRules, Json.isObject_mapMembers, Json.mapMembers_eq_null_iff]

end RuleBook

/-! ## Reading without messages -/

/-- The rule without its messages. -/
def Rule.wordless (r : Rule) : Rule := r.withMessages .empty

/-- The requirement without its messages. -/
def Requirement.wordless (r : Requirement) : Requirement := { r with messages := .empty }

namespace Rule

/-- Members that are messages may be left out before the others are taken up. -/
theorem readMembers_wordless (es : List (String × Json)) (r : Rule) :
    r.wordless.readMembers
        (Dict.pickEntries (fun key v => if Messages.isKey key then none else some v) es) =
      (r.readMembers es).map wordless := by
  induction es generalizing r with
  | nil => rfl
  | cons e rest ih =>
    obtain ⟨key, v⟩ := e
    unfold Dict.pickEntries at ih ⊢
    cases hkey : Messages.isKey key with
    | true =>
      -- The member changes messages only, so without them the rule before it is the one after it.
      rw [readMembers, readMember_of_isKey r hkey v, List.filterMap_cons_none (by simp [hkey])]
      exact ih (r.withMessages (r.messages.takeUp key v))
    | false =>
      have hstep : r.wordless.readMember key v = (r.readMember key v).map wordless :=
        readMember_withMessages r .empty hkey v
      rw [readMembers, List.filterMap_cons_some (b := (key, v)) (by simp [hkey]), readMembers, hstep]
      cases r.readMember key v with
      | error e => rfl
      | ok r₁ => exact ih r₁

/-- A rule that is read without messages is the rule without its messages. -/
theorem ofJson_wordless (v : Json) : ofJson v.wordless = (ofJson v).map wordless := by
  unfold ofJson Shape.members
  rw [Json.wordless, Json.members?_mapMembers]
  cases hm : v.members? with
  | none =>
    rw [Json.mapMembers_of_members?_eq_none _ hm]
    rfl
  | some members => exact readMembers_wordless members.entries {}

end Rule

namespace Requirement

theorem ofSettled_wordless (field : String) (rule : Rule) :
    ofSettled field rule.wordless = (ofSettled field rule).map wordless := by
  obtain ⟨kind⟩ := rule
  cases kind <;> rfl

/-- Written without messages, a rule asks the same of its field, or fails to ask for the same
cause. -/
theorem ofJson_wordless (definition? : String → Option Json) (field : String) (v : Json) :
    ofJson (fun name => (definition? name).map Json.wordless) field v.wordless =
      (ofJson definition? field v).map wordless := by
  unfold ofJson
  rw [Rule.ofJson_wordless]
  cases Rule.ofJson v with
  | error e => rfl
  | ok rule =>
    have hreference : rule.wordless.reference = rule.reference := rfl
    simp only [Except.map, hreference]
    cases rule.reference with
    | none => exact ofSettled_wordless field rule
    | some reference =>
      cases hname : (definitionName? reference).filter (· ≠ "") with
      | none => simp only [hname]
      | some name =>
        cases hd : definition? name with
        | none => simp only [hname, hd, Option.map_none]
        | some d =>
          simp only [hname, hd, Option.map_some, Rule.ofJson_wordless]
          cases Rule.ofJson d with
          | error e => rfl
          | ok definition => exact ofSettled_wordless field (rule.overlay definition)

end Requirement

/-! ## Forms without messages -/

/-- The shortfall is a message that belongs to no constraint. -/
def Shortfall.isOnMessage : Shortfall → Bool
  | .unknownMessageKey _ => true
  | .invalidPattern _ | .unsupportedKind _ | .unknownCustomRule _ | .invalidMinDate _ => false

/-- The remark is about a message that belongs to no constraint. -/
def Remark.isOnMessage : Remark → Bool
  | .unresolved _ => false
  | .shortfall _ part => part.isOnMessage

/-- The checker without its messages. -/
def Checker.wordless (c : Checker) : Checker := { c with messages := .empty }

namespace Form

/-- The remarks of the form that are not about messages. -/
def remarksBesidesMessages (form : Form) : List Remark := form.remarks.filter (!·.isOnMessage)

/-- The form without its messages, and without the remarks on them. -/
def wordless (form : Form) : Form where
  checkers := form.checkers.mapValues fun _ c => c.wordless
  remarks := form.remarksBesidesMessages

end Form

namespace Policy

variable (p : Policy)

theorem isOnMessage_of_mem_constraintShortfalls {r : Requirement} {part : Shortfall}
    (h : part ∈ p.constraintShortfalls r) : part.isOnMessage = false := by
  rw [constraintShortfalls_eq] at h
  rcases List.mem_append.1 h with h | h
  · have hlost := losesConstraint_of_mem_lost p r h
    cases part with
    | unknownMessageKey key => cases hlost
    | _ => rfl
  · split at h
    · cases h
    · rw [List.mem_singleton.1 h]
      rfl

/-- Without its messages a requirement falls short of the same, messages apart. -/
theorem shortfalls_wordless (r : Requirement) :
    p.shortfalls r.wordless = (p.shortfalls r).filter (!·.isOnMessage) := by
  have hconstraints : (p.constraintShortfalls r).filter (!·.isOnMessage) =
      p.constraintShortfalls r :=
    List.filter_eq_self.2 fun part h => by
      rw [isOnMessage_of_mem_constraintShortfalls p h, Bool.not_false]
  have hkeys : (r.messages.unknownKeys.map Shortfall.unknownMessageKey).filter
      (!·.isOnMessage) = [] := by
    rw [List.filter_eq_nil_iff]
    intro part h
    obtain ⟨key, -, rfl⟩ := List.mem_map.1 h
    exact Bool.false_ne_true
  unfold shortfalls
  rw [List.filter_append, hconstraints, hkeys]
  rfl

theorem remarksOn_wordless (field : String) (asked : Except Unresolved Requirement) :
    p.remarksOn field (asked.map Requirement.wordless) =
      (p.remarksOn field asked).filter (!·.isOnMessage) := by
  cases asked with
  | error cause => rfl
  | ok r =>
    show (p.shortfalls r.wordless).map _ = ((p.shortfalls r).map _).filter _
    rw [shortfalls_wordless, List.filter_map]
    rfl

theorem setAside_wordless (field : String) (v : Json) :
    setAside field v.wordless = (setAside field v).filter (!·.isOnMessage) := by
  unfold setAside
  rw [Rule.ofJson_wordless]
  cases Rule.ofJson v <;> rfl

theorem remarksOnRule_wordless (definition? : String → Option Json) (field : String) (v : Json) :
    p.remarksOnRule (fun name => (definition? name).map Json.wordless) field v.wordless =
      (p.remarksOnRule definition? field v).filter (!·.isOnMessage) := by
  unfold remarksOnRule
  rw [Rule.ofJson_wordless, Requirement.ofJson_wordless, remarksOn_wordless]
  cases Rule.ofJson v <;> rfl

/-- **The form of rules without messages** is the form of the rules without its messages. -/
theorem formOf_wordless (definition? : String → Option Json) (fields : Dict Json) :
    p.formOf (fun name => (definition? name).map Json.wordless)
        (fields.mapValues fun _ v => v.wordless) =
      (p.formOf definition? fields).wordless := by
  unfold formOf Form.wordless Form.remarksBesidesMessages
  congr 1
  · rw [Dict.filterMap_mapValues, Dict.mapValues_filterMap]
    congr 1
    funext field v
    rw [Requirement.ofJson_wordless]
    cases Requirement.ofJson definition? field v <;> rfl
  · unfold Dict.mapValues
    rw [List.flatMap_map, List.flatMap_map, List.filter_append, List.filter_flatMap,
      List.filter_flatMap]
    simp only [setAside_wordless, remarksOnRule_wordless]

variable {p} {rules definitions : Json}

theorem exists_formOfJson_wordless :
    (∃ form, p.formOfJson rules.wordlessRules definitions.wordlessDefinitions = .ok form) ↔
      ∃ form, p.formOfJson rules definitions = .ok form := by
  rw [exists_formOfJson_iff, exists_formOfJson_iff, RuleBook.misbuilt_wordlessDefinitions,
    Json.wordlessRules, Json.isObject_mapMembers]

/-- The form of documents without messages. -/
theorem formOfJson_wordless {form : Form} (h : p.formOfJson rules definitions = .ok form) :
    p.formOfJson rules.wordlessRules definitions.wordlessDefinitions = .ok form.wordless := by
  obtain ⟨fields, hfields, hbuilt, rfl⟩ := (formOfJson_eq_ok_iff p).1 h
  refine (formOfJson_eq_ok_iff p).2 ⟨fields.mapValues fun _ v => v.wordless, ?_, ?_, ?_⟩
  · rw [Json.wordlessRules, Json.members?_mapMembers, hfields, Option.map_some]
  · rwa [RuleBook.misbuilt_wordlessDefinitions]
  · rw [RuleBook.definition?_wordlessDefinitions, formOf_wordless]

end Policy

/-! ## Verdicts -/

/-- **Two verdicts are the same but for the message**: both accept, or both reject with failures
that differ in their messages at most. -/
inductive Verdict.SameButMessage : Verdict → Verdict → Prop
  | accepted : SameButMessage .accepted .accepted
  | rejected {f₁ f₂ : Failure} (constraint : f₁.constraint = f₂.constraint)
      (field : f₁.field = f₂.field) (params : f₁.params = f₂.params) :
      SameButMessage (.rejected f₁) (.rejected f₂)

/-- **Two forms are the same but for messages**: they have the same fields in the same order and the
same remarks besides those on messages, and their verdicts differ in messages at most. -/
structure Form.SameButMessages (form₁ form₂ : Form) : Prop where
  fields : form₁.fields = form₂.fields
  remarks : form₁.remarksBesidesMessages = form₂.remarksBesidesMessages
  verdict : ∀ field v, (form₁.verdict field v).SameButMessage (form₂.verdict field v)

namespace Checker

/-- **Checkers that are equal without their messages** answer the same but for the message. -/
theorem sameButMessage_verdict {c₁ c₂ : Checker} (h : c₁.wordless = c₂.wordless) (v : Json) :
    (c₁.verdict v).SameButMessage (c₂.verdict v) := by
  -- What a checker judges does not depend on its messages.
  have hjudge : c₁.judge v = c₂.judge v := by
    show c₁.wordless.judge v = c₂.wordless.judge v
    rw [h]
  have hfield : c₁.field = c₂.field := by
    show c₁.wordless.field = c₂.wordless.field
    rw [h]
  unfold verdict
  rw [hjudge]
  cases c₂.judge v with
  | accepted => exact .accepted
  | rejected f =>
    exact .rejected ((constraint_finish c₁ f).trans (constraint_finish c₂ f).symm)
      (by rw [field_finish, field_finish, hfield])
      ((params_finish c₁ f).trans (params_finish c₂ f).symm)

end Checker

theorem Form.SameButMessages.of_wordless {form₁ form₂ : Form}
    (h : form₁.wordless = form₂.wordless) : form₁.SameButMessages form₂ where
  fields := by
    have hkeys := congrArg Form.fields h
    rwa [wordless, wordless, Form.fields, Form.fields, Dict.keys_mapValues, Dict.keys_mapValues]
      at hkeys
  remarks := congrArg Form.remarks h
  verdict field v := by
    have hget : (form₁.get? field).map Checker.wordless =
        (form₂.get? field).map Checker.wordless := by
      have hget := congrArg (fun form : Form => form.get? field) h
      simpa only [wordless, Form.get?, Dict.get?_mapValues] using hget
    unfold Form.verdict
    cases h₁ : form₁.get? field with
    | none =>
      rw [h₁, Option.map_none, eq_comm, Option.map_eq_none_iff] at hget
      rw [hget]
      exact .accepted
    | some c₁ =>
      rw [h₁, Option.map_some, eq_comm, Option.map_eq_some_iff] at hget
      obtain ⟨c₂, h₂, hc⟩ := hget
      rw [h₂]
      exact Checker.sameButMessage_verdict hc.symm v

namespace Policy

variable {p : Policy} {rules₁ rules₂ definitions₁ definitions₂ : Json}

/-- **Messages decide nothing.** Of two pairs of documents that are equal without the messages of
their rules and definitions, either both have a form or none has, and their forms are the same but
for messages. -/
theorem formOfJson_sameButMessages (hrules : rules₁.wordlessRules = rules₂.wordlessRules)
    (hdefinitions : definitions₁.wordlessDefinitions = definitions₂.wordlessDefinitions) :
    ((∃ form, p.formOfJson rules₁ definitions₁ = .ok form) ↔
      ∃ form, p.formOfJson rules₂ definitions₂ = .ok form) ∧
    ∀ form₁ form₂, p.formOfJson rules₁ definitions₁ = .ok form₁ →
      p.formOfJson rules₂ definitions₂ = .ok form₂ → form₁.SameButMessages form₂ := by
  constructor
  · rw [← exists_formOfJson_wordless, hrules, hdefinitions, exists_formOfJson_wordless]
  · intro form₁ form₂ h₁ h₂
    have hwordless := formOfJson_wordless h₁
    rw [hrules, hdefinitions, formOfJson_wordless h₂] at hwordless
    exact .of_wordless (Except.ok.inj hwordless).symm

end Policy

namespace Sample

/-- The rule of the code with a message that is none, a message of its own, and no stray one. -/
def wordedCode : Json :=
  .object
    [("code", .object
      [("errorMessageRequired", .array [.null]), ("type", .text "string"),
        ("minLength", .ofUInt64 2), ("errorMessageMinLength", .text "Too short"),
        ("pattern", .text "(")])]

/-- Definitions with a message that is none. -/
def wordedDefinitions : Json :=
  .object
    [("definitions", .object
      [("money", .object [("type", .text "number"), ("errorMessageType", .bool false)]),
        ("note", .bool true)])]

end Sample

open Sample in
/-- The code is checked alike in both wordings, and told in the words of its own message in one. -/
theorem formOfJson_sameButMessages_code :
    ∃ form₁ form₂, policy.formOfJson code definitions = .ok form₁ ∧
      policy.formOfJson wordedCode wordedDefinitions = .ok form₂ ∧
      code.wordlessRules = wordedCode.wordlessRules ∧
      definitions.wordlessDefinitions = wordedDefinitions.wordlessDefinitions ∧
      form₁.SameButMessages form₂ ∧
      form₁.verdict "code" (.text "a") ≠ form₂.verdict "code" (.text "a") := by
  have hrules : code.wordlessRules = wordedCode.wordlessRules := rfl
  have hdefinitions : definitions.wordlessDefinitions = wordedDefinitions.wordlessDefinitions := rfl
  obtain ⟨-, hsame⟩ := Policy.formOfJson_sameButMessages (p := policy) hrules hdefinitions
  exact ⟨_, _, rfl, rfl, hrules, hdefinitions, hsame _ _ rfl rfl, by decide +kernel⟩

end FormCheck
