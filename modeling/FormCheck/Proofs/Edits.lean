import FormCheck.Proofs.Documents

/-!
# Books edited by hand

A book starts empty or is read from two documents, and can then be edited: rules and definitions are
added or replaced one after the other. Reading sets a field aside whose rule has a wrong shape, and
remarks on it as left out of the form. Editing does not take such a mark back, so a field that was set
aside and is then given a rule stands in the form and is remarked on as left out.

`RuleBook.Edit` are the calls of `with_field` and `with_definition`, after `new` or `from_json`
(`RuleBook.IsStart`).

* `RuleBook.malformedFields_edits`, `RuleBook.mem_fields_edits_iff`: what a run of edits leaves alone,
  and which fields it leaves behind.
* `RuleBook.IsStart.not_mem_fields`: no field of a book as it starts is kept and set aside at once.
* `Policy.exists_dropping_iff`: the fields that are remarked on as left out, for every book.
* `Policy.not_forall_dropped_absent`: a field that is remarked on as left out may stand in the form.
* **`Policy.contains_dropped_iff`**: this happens to the fields that were set aside on reading and
  given a rule by an edit, and to no others.
-/

namespace FormCheck

namespace RuleBook

/-! ## Runs of edits -/

/-- One change of a book. -/
inductive Edit where
  | field (name : String) (rule : Rule)
  | definition (name : String) (rule : Rule)

/-- The book after one change. -/
def edit (b : RuleBook) : Edit → RuleBook
  | .field name rule => b.withField name rule
  | .definition name rule => b.withDefinition name rule

/-- The book after some changes, the first one first. -/
def edits (b : RuleBook) (es : List Edit) : RuleBook := es.foldl edit b

/-- **How a book starts**: empty, or read from two documents. -/
def IsStart (b : RuleBook) : Prop := b = {} ∨ ∃ rules definitions, ofJson rules definitions = .ok b

variable {b : RuleBook} {name : String}

theorem malformedFields_edit (b : RuleBook) (e : Edit) :
    (b.edit e).malformedFields = b.malformedFields := by
  cases e <;> rfl

/-- Edits take no mark back. -/
theorem malformedFields_edits (b : RuleBook) (es : List Edit) :
    (b.edits es).malformedFields = b.malformedFields := by
  induction es generalizing b with
  | nil => rfl
  | cons e rest ih => exact (ih (b.edit e)).trans (malformedFields_edit b e)

theorem mem_fields_edit_iff {e : Edit} :
    name ∈ (b.edit e).fields.keys ↔ name ∈ b.fields.keys ∨ ∃ rule, e = .field name rule := by
  cases e with
  | definition other rule => simp [edit, withDefinition]
  | field other rule =>
    show name ∈ (b.fields.insert other rule).keys ↔ _
    rw [Dict.keys_insert]
    by_cases hname : other = name
    · subst hname
      split <;> simp_all
    · split <;> simp [hname, Ne.symm hname]

/-- **The fields after a run of edits** are those from the start and those that were given a rule. -/
theorem mem_fields_edits_iff {es : List Edit} :
    name ∈ (b.edits es).fields.keys ↔ name ∈ b.fields.keys ∨ ∃ rule, .field name rule ∈ es := by
  induction es generalizing b with
  | nil => simp [edits]
  | cons e rest ih =>
    have hstep : name ∈ (b.edits (e :: rest)).fields.keys ↔
        name ∈ ((b.edit e).edits rest).fields.keys := Iff.rfl
    rw [hstep, ih, mem_fields_edit_iff, or_assoc]
    refine or_congr Iff.rfl ?_
    constructor
    · rintro (⟨rule, rfl⟩ | ⟨rule, hmem⟩)
      · exact ⟨rule, List.mem_cons_self⟩
      · exact ⟨rule, List.mem_cons_of_mem _ hmem⟩
    · rintro ⟨rule, hmem⟩
      rcases List.mem_cons.1 hmem with he | hmem
      · exact Or.inl ⟨rule, he.symm⟩
      · exact Or.inr ⟨rule, hmem⟩

/-- **A book as it starts** keeps no field that it has set aside. -/
theorem IsStart.not_mem_fields (h : b.IsStart) (hname : name ∈ b.malformedFields.keys) :
    name ∉ b.fields.keys := by
  rcases h with rfl | ⟨rules, definitions, hread⟩
  · exact absurd hname List.not_mem_nil
  · obtain ⟨fields, members, -, -, rfl⟩ := ofJson_eq_ok_iff.1 hread
    rw [← Dict.get?_eq_none_iff]
    rw [← Dict.contains_iff, Dict.contains, ofMembers, get?_illFormed] at hname
    rw [ofMembers, get?_wellFormed]
    cases hv : fields.get? name with
    | none => rfl
    | some v =>
      rw [hv, Option.bind_some] at hname
      cases hrule : Rule.ofJson v with
      | error e => simp [hrule, Except.toOption]
      | ok rule => simp [hrule] at hname

/-! ## Settled and unsettled fields -/

theorem field_of_require {field : String} {rule : Rule} {cause : Unresolved}
    (h : b.require field rule = .error cause) : cause.field = field := by
  have hrule : ∀ {cause}, Requirement.ofRule field rule b.definitions = .error cause →
      cause.field = field := by
    intro cause h
    unfold Requirement.ofRule at h
    split at h
    · rw [(Requirement.ofSettled_eq_error_iff.1 h).2]
      rfl
    · split at h
      · cases h
        rfl
      · split at h
        · cases h
          rfl
        · rw [(Requirement.ofSettled_eq_error_iff.1 h).2]
          rfl
  unfold require at h
  split at h
  · rename_i field' reference hmissing
    have hfield : field' = field := hrule hmissing
    split at h
    · cases h
      exact hfield
    · cases h
      exact hfield
  · exact hrule h

end RuleBook

namespace Policy

variable (p : Policy) {b : RuleBook} {field : String}

/-- **A field is remarked on as left out** exactly if it was set aside, or has a rule that cannot be
settled. -/
theorem exists_dropping_iff :
    (∃ remark ∈ (p.form b).remarks, remark.field = field ∧ remark.dropsField = true) ↔
      field ∈ b.malformedFields.keys ∨
        ∃ rule cause, b.fields.get? field = some rule ∧ b.require field rule = .error cause := by
  constructor
  · rintro ⟨remark, hmem, rfl, hdrops⟩
    rcases List.mem_append.1 hmem with hmem | hmem
    · obtain ⟨⟨name, reason⟩, he, rfl⟩ := List.mem_map.1 hmem
      exact Or.inl (List.mem_map_of_mem he)
    · obtain ⟨⟨name, rule⟩, he, hremark⟩ := List.mem_flatMap.1 hmem
      change remark ∈ p.remarksOn name (b.require name rule) at hremark
      cases hrequire : b.require name rule with
      | ok r =>
        rw [hrequire] at hremark
        obtain ⟨part, -, rfl⟩ := List.mem_map.1 hremark
        cases hdrops
      | error cause =>
        rw [hrequire] at hremark
        obtain rfl := List.mem_singleton.1 hremark
        obtain rfl : (Remark.unresolved cause).field = name := RuleBook.field_of_require hrequire
        exact Or.inr ⟨rule, cause, Dict.get?_eq_some_iff.2 he, hrequire⟩
  · rintro (hmem | ⟨rule, cause, hrule, hrequire⟩)
    · obtain ⟨⟨name, reason⟩, he, rfl⟩ := List.mem_map.1 hmem
      exact ⟨.unresolved (.malformedRule name reason),
        List.mem_append_left _ (List.mem_map_of_mem he), rfl, rfl⟩
    · refine ⟨.unresolved cause, List.mem_append_right _ ?_, RuleBook.field_of_require hrequire, rfl⟩
      refine List.mem_flatMap.2 ⟨(field, rule), Dict.get?_eq_some_iff.1 hrule, ?_⟩
      show _ ∈ p.remarksOn field (b.require field rule)
      rw [hrequire]
      exact List.mem_singleton_self _

/-- **Which fields stand in the form although they are remarked on as left out**: those that were set
aside when the book was read, have been given a rule by an edit since, and can be settled with it. -/
theorem contains_dropped_iff (p : Policy) {b : RuleBook} (hb : b.IsStart) (es : List RuleBook.Edit)
    (field : String) :
    ((p.form (b.edits es)).contains field = true ∧
      ∃ remark ∈ (p.form (b.edits es)).remarks, remark.field = field ∧ remark.dropsField = true) ↔
    field ∈ b.malformedFields.keys ∧ (∃ rule, .field field rule ∈ es) ∧
      (p.form (b.edits es)).contains field = true := by
  rw [exists_dropping_iff, RuleBook.malformedFields_edits]
  constructor
  · rintro ⟨hcontains, hdropped⟩
    obtain ⟨rule, r, hrule, hok⟩ := (contains_form_iff p).1 hcontains
    rcases hdropped with hmalformed | ⟨rule', cause, hrule', herror⟩
    · have hfield : field ∈ (b.edits es).fields.keys :=
        List.mem_map_of_mem (Dict.get?_eq_some_iff.1 hrule)
      rcases RuleBook.mem_fields_edits_iff.1 hfield with hstart | hedit
      · exact absurd hstart (hb.not_mem_fields hmalformed)
      · exact ⟨hmalformed, hedit, hcontains⟩
    · -- The field has one rule, which cannot both be settled and not be settled.
      obtain rfl := Option.some.inj (hrule.symm.trans hrule')
      rw [hok] at herror
      cases herror
  · rintro ⟨hmalformed, -, hcontains⟩
    exact ⟨hcontains, Or.inl hmalformed⟩

end Policy

namespace Sample

/-- A rule of the wrong shape. -/
def memoSetAside : Json := .object [("memo", .bool true)]

/-- The book with that rule. -/
def bookSetAside : RuleBook := { malformedFields := RuleBook.illFormed (.ofList [("memo", .bool true)]) }

/-- The memo is given a rule. -/
def memoGiven : List RuleBook.Edit := [.field "memo" (.ofKind .text)]

theorem isStart_bookSetAside : bookSetAside.IsStart := Or.inr ⟨memoSetAside, .null, rfl⟩

end Sample

open Sample in
/-- The memo that is given a rule stands in the form, and is remarked on as left out. -/
theorem contains_dropped_memo :
    (policy.form (bookSetAside.edits memoGiven)).contains "memo" = true ∧
      ∃ remark ∈ (policy.form (bookSetAside.edits memoGiven)).remarks,
        remark.field = "memo" ∧ remark.dropsField = true :=
  (Policy.contains_dropped_iff policy isStart_bookSetAside memoGiven "memo").2
    ⟨by decide +kernel, ⟨_, List.mem_singleton_self _⟩, rfl⟩

open Sample in
/-- **A field that is remarked on as left out may stand in the form.** -/
theorem Policy.not_forall_dropped_absent :
    ¬ ∀ (p : Policy) (b : RuleBook), b.IsStart → ∀ (es : List RuleBook.Edit),
      ∀ remark ∈ (p.form (b.edits es)).remarks, remark.dropsField = true →
        (p.form (b.edits es)).contains remark.field = false := by
  intro h
  have hremark : Remark.unresolved (.malformedRule "memo"
      "invalid type: boolean `true`, expected struct FieldRule") ∈
      (policy.form (bookSetAside.edits memoGiven)).remarks := by decide +kernel
  have habsent := h policy bookSetAside isStart_bookSetAside memoGiven _ hremark rfl
  have hcontains : (policy.form (bookSetAside.edits memoGiven)).contains "memo" = true := rfl
  rw [show (policy.form (bookSetAside.edits memoGiven)).contains "memo" = false from habsent]
    at hcontains
  cases hcontains

end FormCheck
