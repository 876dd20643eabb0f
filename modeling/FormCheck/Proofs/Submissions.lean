import FormCheck.Proofs.Documents

/-!
# Three answers to one submission

A submission can be judged in three ways: field by field (`Form.verdict`), with a verdict for each
field at once (`Form.verdicts`), or as a whole, with a report of what fails (`Form.validate`). Each
goes through the checkers of the form on its own. Here they are shown to be views of one function,
`Form.answer`, which gives the answer for a single field.

The three ways are `validate_field`, `outcomes` and `validate_form`; a look-up in the report is
`for_field`.

* `Form.entries_verdicts`, `Form.failures_report_eq_filterMap`: the verdicts and the report, read off
  the single answers.
* `Form.find?_report`: a look-up in the report gives the failure of the field that is asked for.
  Failures are found by the field that they name themselves, which is the one that the checker holds,
  while checkers are found by the name under which they are kept. So this needs forms that are filed
  (`Form.Filed`), as all forms of rule books are (`Policy.filed_form`).
* `Form.answer_congr`: of a submission only the values of the fields count (`Form.SameValues`).
* **`Form.answers_agree`**: all of this for the form of every rule book and every submission.
-/

namespace FormCheck

namespace Form

variable (form : Form) (values : Dict Json)

/-- **The answer for one field** of a submission. -/
def answer (field : String) : Verdict := form.verdict field (valueOf values field)

/-- Two submissions hold the same values for the fields of the form, in whatever order, and whatever
else they hold. -/
def SameValues (values₁ values₂ : Dict Json) : Prop :=
  (values₁.entries.filter fun e => form.contains e.1).Perm
    (values₂.entries.filter fun e => form.contains e.1)

variable {form values}

theorem mem_fields {field : String} : field ∈ form.fields ↔ form.contains field = true :=
  Dict.contains_iff.symm

/-! ## The answer for one field -/

theorem verdict_of_mem {field : String} {c : Checker} (h : (field, c) ∈ form.checkers.entries)
    (v : Json) : form.verdict field v = c.verdict v := by
  have hc : form.get? field = some c := Dict.get?_eq_some_iff.2 h
  rw [verdict, hc]

/-- A field that the form does not have accepts every value. -/
theorem verdict_of_not_contains {field : String} (h : form.contains field = false) (v : Json) :
    form.verdict field v = .accepted := by
  have hc : form.get? field = none := Option.isNone_iff_eq_none.1 (Option.isSome_eq_false_iff.1 h)
  rw [verdict, hc]

/-- **In a form that is filed** a failure names the field that was asked for. -/
theorem Filed.field_of_verdict (filed : form.Filed) {field : String} {v : Json} {f : Failure}
    (h : form.verdict field v = .rejected f) : f.field = some field := by
  unfold verdict at h
  cases hc : form.get? field with
  | none =>
    rw [hc] at h
    cases h
  | some c =>
    rw [hc] at h
    rw [Checker.field_of_verdict h, filed field c hc]

theorem Filed.field_of_answer (filed : form.Filed) {field : String} {f : Failure}
    (h : (form.answer values field).failure? = some f) : f.field = some field :=
  filed.field_of_verdict (Verdict.failure?_eq_some_iff.1 h)

/-- Only fields of the form fail. -/
theorem mem_fields_of_answer {field : String} {f : Failure}
    (h : form.answer values field = .rejected f) : field ∈ form.fields := by
  rw [mem_fields]
  cases hc : form.contains field with
  | true => rfl
  | false =>
    rw [answer, verdict_of_not_contains hc] at h
    cases h

/-! ## All verdicts, and the report -/

variable (form values)

theorem entries_verdicts :
    (form.verdicts values).entries = form.fields.map fun f => (f, form.answer values f) := by
  show (form.checkers.entries.map fun e => (e.1, e.2.verdict (valueOf values e.1))) =
    (form.checkers.entries.map Prod.fst).map fun f => (f, form.answer values f)
  rw [List.map_map]
  refine List.map_congr_left fun e he => ?_
  rw [← verdict_of_mem he]
  rfl

/-- The report lists the failures among the single answers, in the order of the fields. -/
theorem failures_report_eq_filterMap :
    (form.report values).failures =
      form.fields.filterMap fun f => (form.answer values f).failure? := by
  rw [failures_report, entries_verdicts, List.filterMap_map]
  rfl

/-- What the failures of some names are found by, if each failure names its own. -/
theorem find?_filterMap_of_field (fails : String → Option Failure)
    (own : ∀ name f, fails name = some f → f.field = some name) (names : List String)
    (name : String) :
    (names.filterMap fails).find? (·.field == some name) =
      if name ∈ names then fails name else none := by
  induction names with
  | nil => rfl
  | cons n rest ih =>
    cases hn : fails n with
    | none =>
      rw [List.filterMap_cons_none hn, ih]
      by_cases h : name = n
      · subst h
        simp [hn]
      · simp [h]
    | some f =>
      have hf := own n f hn
      rw [List.filterMap_cons_some hn, List.find?_cons, hf]
      by_cases h : n = name
      · subst h
        simp [hn]
      · have hne : (some n == some name) = false := beq_eq_false_iff_ne.2 fun e => h (Option.some.inj e)
        rw [hne, ih]
        simp [Ne.symm h]

variable {form}

/-- **A look-up in the report** gives the failure of the field that is asked for. -/
theorem Filed.find?_report (filed : form.Filed) (field : String) :
    (form.report values).find? field = (form.answer values field).failure? := by
  have hfind := find?_filterMap_of_field (fun f => (form.answer values f).failure?)
    (fun _ _ => filed.field_of_answer) form.fields field
  rw [Report.find?, failures_report_eq_filterMap, hfind]
  by_cases hf : field ∈ form.fields
  · rw [if_pos hf]
  · rw [if_neg hf]
    cases ha : form.answer values field with
    | accepted => rfl
    | rejected f => exact absurd (mem_fields_of_answer ha) hf

/-- The failures of a report name the fields that are rejected, each once. -/
theorem Filed.map_field_report (filed : form.Filed) :
    (form.report values).failures.map Failure.field =
      (form.fields.filter fun f => !(form.answer values f).isAccepted).map some := by
  rw [failures_report_eq_filterMap]
  induction form.fields with
  | nil => rfl
  | cons n rest ih =>
    cases ha : form.answer values n with
    | accepted => simpa [ha, Verdict.failure?, Verdict.isAccepted] using ih
    | rejected f =>
      have hf : f.field = some n := filed.field_of_verdict ha
      simpa [ha, Verdict.failure?, Verdict.isAccepted, hf] using ih

theorem Filed.nodup_failures_report (filed : form.Filed) :
    (form.report values).failures.Nodup := by
  have hfields : form.fields.Nodup := form.checkers.nodup
  have hnames : ((form.report values).failures.map Failure.field).Nodup := by
    rw [filed.map_field_report]
    exact List.Pairwise.map some (fun _ _ hne heq => hne (Option.some.inj heq))
      (List.filter_sublist.nodup hfields)
  exact List.Pairwise.of_map Failure.field (fun _ _ hne heq => hne (heq ▸ rfl)) hnames

variable (form)

theorem failures_report_eq_nil_iff :
    (form.report values).failures = [] ↔ ∀ f ∈ form.fields, form.answer values f = .accepted := by
  rw [failures_report_eq_filterMap, List.filterMap_eq_nil_iff]
  exact forall₂_congr fun f _ => Verdict.failure?_eq_none_iff

end Form

/-! ## Reports as answers -/

namespace Report

theorem toExcept_eq_ok_iff {α : Type} {r : Report} {x : α} :
    r.toExcept x = .ok x ↔ r.failures = [] := by
  unfold toExcept
  cases r.failures <;> simp

theorem toExcept_eq_error_iff {α : Type} {r r' : Report} {x : α} :
    r.toExcept x = .error r' ↔ r' = r ∧ r.failures ≠ [] := by
  unfold toExcept
  cases hr : r.failures with
  | nil => simp
  | cons f rest => simp [eq_comm]

end Report

/-! ## What counts of a submission -/

namespace Form

variable {form : Form} {values values₁ values₂ : Dict Json}

/-- Neither the order of a submission nor what it holds besides the fields changes a value. -/
theorem get?_eq_of_sameValues (h : form.SameValues values₁ values₂) {field : String}
    (hf : form.contains field = true) : values₁.get? field = values₂.get? field := by
  have mem_iff : ∀ (values : Dict Json) (v : Json), values.get? field = some v ↔
      (field, v) ∈ values.entries.filter fun e => form.contains e.1 := by
    intro values v
    rw [Dict.get?_eq_some_iff, List.mem_filter, and_iff_left hf]
  ext v
  rw [mem_iff, mem_iff, h.mem_iff]

/-- **Of a submission only the values of the fields count.** -/
theorem answer_congr (h : form.SameValues values₁ values₂) :
    form.answer values₁ = form.answer values₂ := by
  funext field
  cases hf : form.contains field with
  | true => rw [answer, answer, valueOf, valueOf, get?_eq_of_sameValues h hf]
  | false => rw [answer, answer, verdict_of_not_contains hf, verdict_of_not_contains hf]

theorem verdicts_congr (h : form.SameValues values₁ values₂) :
    form.verdicts values₁ = form.verdicts values₂ := by
  apply Dict.ext_entries
  rw [entries_verdicts, entries_verdicts, answer_congr h]

theorem report_congr (h : form.SameValues values₁ values₂) :
    form.report values₁ = form.report values₂ := by
  have hfailures : (form.report values₁).failures = (form.report values₂).failures := by
    rw [failures_report_eq_filterMap, failures_report_eq_filterMap, answer_congr h]
  exact congrArg Report.mk hfailures

/-- **The three answers agree.** The form of a rule book keeps each checker under the name of its own
field. The verdicts of a submission are the answers for the single fields, in the order of the
fields. The submission is accepted exactly if each of these answers is; otherwise the report holds
the failures among them, in the same order, each under the name of its field and none twice, and a
look-up in the report finds the failure of the field that is asked for. Nothing of this changes if
the submission is reordered or holds other things for names that are no fields. -/
theorem answers_agree (p : Policy) (b : RuleBook) (values : Dict Json) :
    let form := p.form b
    (∀ field c, form.get? field = some c → c.field = field) ∧
    (form.verdicts values).entries = form.fields.map (fun f => (f, form.answer values f)) ∧
    (form.validate values = .ok () ↔ ∀ f ∈ form.fields, form.answer values f = .accepted) ∧
    (∀ report, form.validate values = .error report →
      report.failures = form.fields.filterMap (fun f => (form.answer values f).failure?) ∧
      report.failures.map Failure.field =
        (form.fields.filter fun f => !(form.answer values f).isAccepted).map some ∧
      report.failures.Nodup ∧
      ∀ name f, report.find? name = some f ↔
        name ∈ form.fields ∧ form.answer values name = .rejected f) ∧
    ∀ values', form.SameValues values' values →
      form.answer values' = form.answer values ∧ form.verdicts values' = form.verdicts values ∧
        form.validate values' = form.validate values := by
  intro form
  have filed : form.Filed := p.filed_form b
  refine ⟨filed, entries_verdicts form values, ?_, ?_, ?_⟩
  · rw [validate, Report.toExcept_eq_ok_iff, failures_report_eq_nil_iff]
  · intro report hreport
    obtain ⟨rfl, -⟩ := Report.toExcept_eq_error_iff.1 hreport
    refine ⟨failures_report_eq_filterMap form values, filed.map_field_report values,
      filed.nodup_failures_report values, fun name f => ?_⟩
    rw [filed.find?_report, Verdict.failure?_eq_some_iff]
    exact (and_iff_right_of_imp mem_fields_of_answer).symm
  · intro values' h
    exact ⟨answer_congr h, verdicts_congr h, by rw [validate, validate, report_congr h]⟩

end Form

namespace Sample

/-- Two fields: an amount that has to be there, and a short memo. -/
def paymentBook : RuleBook where
  fields := .ofList
    [("amount", { Rule.ofKind .number with required := some true }),
      ("memo", { Rule.ofKind .text with maxLength := some 3 })]

/-- A submission without an amount, and with a long memo. -/
def payment : Dict Json := .ofList [("memo", .text "thanks"), ("amount", .null)]

/-- The same, in another order and with a name that is no field. -/
def otherPayment : Dict Json :=
  .ofList [("note", .bool true), ("amount", .null), ("memo", .text "thanks")]

end Sample

open Sample in
/-- Both fields of the payment fail, in the order of the fields, however it is written down. -/
theorem answers_agree_payment :
    ∃ report, (policy.form paymentBook).validate payment = .error report ∧
      (policy.form paymentBook).SameValues otherPayment payment ∧
      report.failures.map Failure.field = [some "amount", some "memo"] ∧
      report.failures.Nodup ∧ (policy.form paymentBook).validate otherPayment = .error report ∧
      ∃ c, (policy.form paymentBook).get? "memo" = some c ∧ c.field = "memo" := by
  obtain ⟨hfiled, -, -, hreport, hvalues⟩ := Form.answers_agree policy paymentBook payment
  have hsame : (policy.form paymentBook).SameValues otherPayment payment := List.Perm.swap _ _ _
  obtain ⟨-, hfields, hnodup, -⟩ := hreport _ rfl
  exact ⟨_, rfl, hsame, hfields.trans (by decide +kernel), hnodup, (hvalues _ hsame).2.2,
    _, rfl, hfiled "memo" _ rfl⟩

end FormCheck
