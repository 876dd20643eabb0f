import FormCheck.Proofs.Documents

/-!
# Remarks are complete and exact

What a form remarks on its documents, said without the clauses of a policy.

The remarks are the diagnostics of `compile`, `MalformedRule` and the other causes included; checks
are counted by `constraint_count`.

* `Policy.lost` lists the constraints that a requirement sets for its kind and that the policy
  cannot honour, and `Policy.due` everything that is to be said of a requirement.
* `shortfalls_eq_due`: the policy says that much and nothing else.
* `size_inspection_add_lost`: of the constraints that a requirement sets for its kind, each is
  either checked or reported. `size_checksOf_add` is the same for any clauses, by induction on them.
* **`formOfJson_remarks`**: the remarks of a form, in their order; none stands twice; and the checks
  and the lost constraints of a field add up to what its rule sets.
-/

namespace FormCheck

/-! ## What is to be said of a requirement -/

/-- The constraints that are checked for values of a kind, besides presence and the kind itself. -/
def Kind.constraints : Kind → List Constraint
  | .text => [.minLength, .maxLength, .pattern, .allowedValues]
  | .number => [.minValue, .maxValue]
  | .date => [.minDate, .customRule]
  | .boolean | .other _ _ => []

/-- Whether the requirement sets the constraint. -/
def Requirement.sets (r : Requirement) : Constraint → Bool
  | .required => r.required
  | .kind => true
  | .minLength => r.minLength.isSome
  | .maxLength => r.maxLength.isSome
  | .pattern => r.pattern.isSome
  | .allowedValues => r.allowedValues.isSome
  | .minValue => r.minValue.isSome
  | .maxValue => r.maxValue.isSome
  | .minDate => r.minDate.isSome
  | .customRule => r.customRule.isSome

/-- The shortfall is a constraint that is set and not checked. -/
def Shortfall.losesConstraint : Shortfall → Bool
  | .invalidPattern _ | .invalidMinDate _ | .unknownCustomRule _ => true
  | .unsupportedKind _ | .unknownMessageKey _ => false

/-- The remark is about a constraint that is set and not checked. -/
def Remark.losesConstraint : Remark → Bool
  | .unresolved _ => false
  | .shortfall _ part => part.losesConstraint

/-- The keys of messages that are the key of no constraint. -/
def Messages.strayKeys (m : Messages) : List String :=
  m.keys.filter fun key => Constraint.all.all fun c => c.messageKey != key

namespace Policy

variable (p : Policy) (r : Requirement)

/-- Of the constraints of a text only a pattern can be lost, if it is no regular expression. -/
def lostOfText : List Shortfall :=
  (r.pattern.filter fun source => (Pattern.compile? source).isNone).toList.map .invalidPattern

/-- Of the constraints of a date both can be lost: an earliest date that is neither `today` nor
written in the format of dates, and a rule that is not known. -/
def lostOfDate : List Shortfall :=
  (r.minDate.filter fun written =>
    written != "today" && (Date.parse? p.settings.dateFormat written).isNone).toList.map
      .invalidMinDate ++
  (r.customRule.filter fun name => (p.rules.get? name).isNone).toList.map .unknownCustomRule

/-- **The constraints that are lost**: set for the required kind, and not to be honoured. -/
def lost : List Shortfall :=
  match r.kind with
  | .text => lostOfText r
  | .date => p.lostOfDate r
  | .number | .boolean | .other _ _ => []

/-- What else there is to say of a requirement: that its kind has no checks, and which messages
belong to no constraint. -/
def besides : List Shortfall :=
  (if r.kind.hasChecks then [] else [.unsupportedKind r.kind.name]) ++
    r.messages.strayKeys.map .unknownMessageKey

/-- **What is to be said of a requirement**, in this order. -/
def due : List Shortfall := p.lost r ++ besides r

/-- What is to be said of a written rule of the right shape: why it asks nothing, or what is lost of
what it asks. -/
def dueOn (definition? : String → Option Json) (field : String) (v : Json) : List Remark :=
  match Rule.ofJson v with
  | .error _ => []
  | .ok _ =>
    match Requirement.ofJson definition? field v with
    | .error cause => [.unresolved cause]
    | .ok r => (p.due r).map (.shortfall field)

/-! ## Clauses -/

variable {α β : Type}

/-- **Each clause is either checked or reported.** -/
theorem size_checksOf_add (clauses : List (Clause α)) :
    (checksOf clauses).size + (shortfallsOf clauses).length = clauses.length := by
  unfold checksOf shortfallsOf Chain.size
  induction clauses with
  | nil => rfl
  | cons clause rest ih =>
    cases clause with
    | ok check =>
      simp only [List.filterMap_cons, Except.toOption, List.length_cons] at ih ⊢
      omega
    | error part =>
      simp only [List.filterMap_cons, Except.toOption, List.length_cons] at ih ⊢
      omega

theorem shortfallsOf_append (as bs : List (Clause α)) :
    shortfallsOf (as ++ bs) = shortfallsOf as ++ shortfallsOf bs := List.filterMap_append

/-- The clause of one attribute is reported if the attribute is set to something that fails. -/
theorem shortfallsOf_attribute (clause : β → Clause α) (fails : β → Bool) (part : β → Shortfall)
    (h : ∀ x, shortfallsOf [clause x] = if fails x then [part x] else []) (o : Option β) :
    shortfallsOf (o.map clause).toList = (o.filter fails).toList.map part := by
  cases o with
  | none => rfl
  | some x =>
    rw [Option.map_some, Option.toList_some, h]
    cases hx : fails x with
    | true =>
      rw [Option.filter_some_pos hx]
      rfl
    | false =>
      rw [Option.filter_some_neg hx]
      rfl

theorem shortfallsOf_honoured (check : β → Check α) (o : Option β) :
    shortfallsOf (o.map fun x => (.ok (check x) : Clause α)).toList = [] := by
  cases o <;> rfl

theorem shortfallsOf_textClauses : shortfallsOf (p.textClauses r) = lostOfText r := by
  have hpattern := shortfallsOf_attribute patternClause
    (fun source => (Pattern.compile? source).isNone) .invalidPattern
    (fun source => by
      unfold patternClause
      cases Pattern.compile? source <;> rfl)
    r.pattern
  unfold textClauses lostOfText
  simp only [shortfallsOf_append, shortfallsOf_honoured, hpattern, List.nil_append, List.append_nil]

theorem shortfallsOf_numberClauses : shortfallsOf (numberClauses r) = [] := by
  unfold numberClauses
  rw [shortfallsOf_append, shortfallsOf_honoured, shortfallsOf_honoured, List.append_nil]

theorem shortfallsOf_dateClauses : shortfallsOf (p.dateClauses r) = p.lostOfDate r := by
  have hmin := shortfallsOf_attribute p.minDateClause
    (fun written => written != "today" && (Date.parse? p.settings.dateFormat written).isNone)
    .invalidMinDate
    (fun written => by
      unfold minDateClause
      by_cases ht : written = "today"
      · subst ht
        rfl
      · have hne : (written != "today") = true := bne_iff_ne.2 ht
        rw [earliest?_literal p ht, hne, Bool.true_and]
        cases Date.parse? p.settings.dateFormat written <;> rfl)
    r.minDate
  have hrule := shortfallsOf_attribute p.dateRuleClause
    (fun name => (p.rules.get? name).isNone) .unknownCustomRule
    (fun name => by
      unfold dateRuleClause
      cases p.rules.get? name <;> rfl)
    r.customRule
  unfold dateClauses lostOfDate
  rw [shortfallsOf_append, hmin, hrule]

/-! ## The shortfalls of a requirement -/

theorem unknownKeys_eq_strayKeys (m : Messages) : m.unknownKeys = m.strayKeys := by
  unfold Messages.unknownKeys Messages.strayKeys
  congr 1
  funext key
  unfold Constraint.ofMessageKey?
  rw [Bool.eq_iff_iff, Option.isNone_iff_eq_none, List.find?_eq_none, List.all_eq_true]
  simp

theorem constraintShortfalls_eq :
    p.constraintShortfalls r =
      p.lost r ++ if r.kind.hasChecks then [] else [.unsupportedKind r.kind.name] := by
  unfold constraintShortfalls lost
  cases r.kind with
  | text =>
    rw [shortfallsOf_textClauses]
    exact (List.append_nil _).symm
  | number =>
    rw [shortfallsOf_numberClauses]
    rfl
  | date =>
    rw [shortfallsOf_dateClauses]
    exact (List.append_nil _).symm
  | boolean => rfl
  | other name unknown => rfl

/-- **The policy says what is to be said**, and nothing else. -/
theorem shortfalls_eq_due : p.shortfalls r = p.due r := by
  unfold shortfalls due besides
  rw [constraintShortfalls_eq, unknownKeys_eq_strayKeys, List.append_assoc]

theorem losesConstraint_of_mem_lost {part : Shortfall} (h : part ∈ p.lost r) :
    part.losesConstraint = true := by
  unfold lost at h
  split at h
  · obtain ⟨source, -, rfl⟩ := List.mem_map.1 h
    rfl
  · rcases List.mem_append.1 h with h | h
    · obtain ⟨written, -, rfl⟩ := List.mem_map.1 h
      rfl
    · obtain ⟨name, -, rfl⟩ := List.mem_map.1 h
      rfl
  all_goals cases h

theorem losesConstraint_of_mem_besides {part : Shortfall} (h : part ∈ besides r) :
    part.losesConstraint = false := by
  rcases List.mem_append.1 h with h | h
  · split at h
    · cases h
    · rw [List.mem_singleton.1 h]
      rfl
  · obtain ⟨key, -, rfl⟩ := List.mem_map.1 h
    rfl

/-- **An earliest date is reported** exactly if it is the one that is asked for and the policy makes
no date of it. -/
theorem invalidMinDate_mem_shortfalls {p : Policy} {r : Requirement} (hkind : r.kind = .date)
    {value : String} :
    .invalidMinDate value ∈ p.shortfalls r ↔ r.minDate = some value ∧ p.earliest? value = none := by
  have hbesides : .invalidMinDate value ∉ besides r := fun h =>
    Bool.noConfusion (losesConstraint_of_mem_besides r h)
  have hlost : .invalidMinDate value ∈ p.lost r ↔
      r.minDate = some value ∧ value ≠ "today" ∧
        Date.parse? p.settings.dateFormat value = none := by
    simp [lost, hkind, lostOfDate, Option.filter_eq_some_iff]
  rw [shortfalls_eq_due, due, List.mem_append, or_iff_left hbesides, hlost]
  refine and_congr_right fun _ => ?_
  by_cases htoday : value = "today"
  · rw [htoday, earliest?_today]
    simp
  · rw [earliest?_literal p htoday]
    exact and_iff_right htoday

theorem invalidMinDate_mem_shortfalls_iff {p : Policy} {r : Requirement} {written : String}
    (hkind : r.kind = .date) (hmin : r.minDate = some written) :
    .invalidMinDate written ∈ p.shortfalls r ↔ p.earliest? written = none := by
  rw [invalidMinDate_mem_shortfalls hkind]
  exact and_iff_right hmin

theorem countP_due : (p.due r).countP Shortfall.losesConstraint = (p.lost r).length := by
  have hlost : (p.lost r).countP Shortfall.losesConstraint = (p.lost r).length :=
    List.countP_eq_length.2 fun _ h => losesConstraint_of_mem_lost p r h
  have hbesides : (besides r).countP Shortfall.losesConstraint = 0 :=
    List.countP_eq_zero.2 fun _ h => Bool.eq_false_iff.1 (losesConstraint_of_mem_besides r h)
  rw [due, List.countP_append, hlost, hbesides, Nat.add_zero]

/-! ## Checked or reported -/

theorem length_attribute (f : β → Clause α) (o : Option β) :
    (o.map f).toList.length = o.isSome.toNat := by
  cases o <;> rfl

theorem countP_sets_cons (c : Constraint) (cs : List Constraint) :
    (c :: cs).countP r.sets = (r.sets c).toNat + cs.countP r.sets := by
  rw [List.countP_cons, Nat.add_comm]
  cases r.sets c <;> rfl

theorem length_textClauses :
    (p.textClauses r).length = Kind.text.constraints.countP r.sets := by
  unfold textClauses
  simp only [List.length_append, length_attribute, Kind.constraints, countP_sets_cons,
    List.countP_nil, Requirement.sets]
  omega

theorem length_numberClauses :
    (numberClauses r).length = Kind.number.constraints.countP r.sets := by
  unfold numberClauses
  simp only [List.length_append, length_attribute, Kind.constraints, countP_sets_cons,
    List.countP_nil, Requirement.sets]
  omega

theorem length_dateClauses :
    (p.dateClauses r).length = Kind.date.constraints.countP r.sets := by
  unfold dateClauses
  simp only [List.length_append, length_attribute, Kind.constraints, countP_sets_cons,
    List.countP_nil, Requirement.sets]
  omega

/-- **Each constraint that a requirement sets for its kind is either checked or lost.** -/
theorem size_inspection_add_lost :
    (p.inspection r).size + (p.lost r).length = r.kind.constraints.countP r.sets := by
  unfold inspection lost
  cases r.kind with
  | text =>
    rw [← length_textClauses p, ← size_checksOf_add, shortfallsOf_textClauses]
    rfl
  | number =>
    rw [← length_numberClauses, ← size_checksOf_add, shortfallsOf_numberClauses]
    rfl
  | date =>
    rw [← length_dateClauses p, ← size_checksOf_add, shortfallsOf_dateClauses]
    rfl
  | boolean => rfl
  | other name unknown => rfl

/-! ## Nothing is said twice -/

theorem nodup_optional (f : β → Shortfall) (o : Option β) : (o.toList.map f).Nodup := by
  cases o <;> simp

theorem nodup_lost : (p.lost r).Nodup := by
  unfold lost
  split
  · exact nodup_optional _ _
  · refine List.nodup_append.2 ⟨nodup_optional _ _, nodup_optional _ _, ?_⟩
    intro a ha b hb
    obtain ⟨written, -, rfl⟩ := List.mem_map.1 ha
    obtain ⟨name, -, rfl⟩ := List.mem_map.1 hb
    exact Shortfall.noConfusion
  all_goals exact List.nodup_nil

theorem nodup_strayKeys (m : Messages) : m.strayKeys.Nodup :=
  List.filter_sublist.nodup m.nodup

theorem nodup_besides : (besides r).Nodup := by
  have hkind : (if r.kind.hasChecks then []
      else [Shortfall.unsupportedKind r.kind.name]).Nodup := by
    split
    · exact List.nodup_nil
    · exact List.pairwise_singleton _ _
  have hkeys : (r.messages.strayKeys.map Shortfall.unknownMessageKey).Nodup :=
    List.Pairwise.map _ (fun a b hne heq => hne (Shortfall.unknownMessageKey.inj heq))
      (nodup_strayKeys r.messages)
  refine List.nodup_append.2 ⟨hkind, hkeys, ?_⟩
  intro a ha b hb
  obtain ⟨key, -, rfl⟩ := List.mem_map.1 hb
  split at ha
  · cases ha
  · rw [List.mem_singleton.1 ha]
    exact Shortfall.noConfusion

theorem nodup_due : (p.due r).Nodup := by
  refine List.nodup_append.2 ⟨nodup_lost p r, nodup_besides r, ?_⟩
  intro a ha b hb
  rintro rfl
  have hlost := losesConstraint_of_mem_lost p r ha
  rw [losesConstraint_of_mem_besides r hb] at hlost
  cases hlost

end Policy

theorem Form.nodup_remarks {form : Form} (h : ∀ field, (form.remarksOn field).Nodup) :
    form.remarks.Nodup := by
  rw [List.nodup_iff_count]
  intro remark
  have hcount := List.nodup_iff_count.1 (h remark.field) remark
  have hall : (form.remarksOn remark.field).count remark = form.remarks.count remark :=
    List.count_filter (beq_self_eq_true remark.field)
  rwa [hall] at hcount

/-! ## The form -/

namespace Policy

variable {p : Policy} {rules definitions : Json} {form : Form}

theorem remarksOnRule_eq_dueOn (p : Policy) (definition? : String → Option Json) (field : String)
    (v : Json) : p.remarksOnRule definition? field v = p.dueOn definition? field v := by
  unfold remarksOnRule dueOn
  cases Rule.ofJson v with
  | error e => rfl
  | ok rule =>
    cases Requirement.ofJson definition? field v with
    | error cause => rfl
    | ok r => exact congrArg (·.map (Remark.shortfall field)) (shortfalls_eq_due p r)

theorem nodup_remarksOn (p : Policy) (field : String) (asked : Except Unresolved Requirement) :
    (p.remarksOn field asked).Nodup := by
  unfold remarksOn
  split
  · rw [shortfalls_eq_due]
    exact List.Pairwise.map _ (fun a b hne heq => hne (Remark.shortfall.inj heq).2) (nodup_due p _)
  · exact List.pairwise_singleton _ _

/-- What the form of two documents remarks, in its order. -/
theorem remarks_of_formOfJson (h : p.formOfJson rules definitions = .ok form) :
    ∃ fields, rules.members? = some fields ∧
      form.remarks = (fields.entries.flatMap fun e => setAside e.1 e.2) ++
        fields.entries.flatMap fun e => p.dueOn (RuleBook.definition? definitions) e.1 e.2 := by
  obtain ⟨fields, hf, -, rfl⟩ := (formOfJson_eq_ok_iff p).1 h
  refine ⟨fields, hf, ?_⟩
  simp only [formOf, remarksOnRule_eq_dueOn]

/-- The checks and the lost constraints of a field add up to what its rule sets. -/
theorem size_add_countP_remarksOn (h : p.formOfJson rules definitions = .ok form) {field : String}
    {c : Checker} (hc : form.get? field = some c) :
    ∃ v r, rules.member? field = some v ∧
      Requirement.ofJson (RuleBook.definition? definitions) field v = .ok r ∧
      c.inspection.size + (form.remarksOn field).countP Remark.losesConstraint =
        r.kind.constraints.countP r.sets := by
  rw [get?_of_formOfJson h, Option.bind_eq_some_iff] at hc
  obtain ⟨v, hv, hc⟩ := hc
  cases hr : Requirement.ofJson (RuleBook.definition? definitions) field v with
  | error cause =>
    rw [hr] at hc
    cases hc
  | ok r =>
    rw [hr] at hc
    cases hc
    refine ⟨v, r, hv, hr, ?_⟩
    rw [remarksOn_of_formOfJson h, hv, Option.map_some, Option.getD_some, hr, remarksOn,
      shortfalls_eq_due, List.countP_map, ← size_inspection_add_lost p r, ← countP_due]
    rfl

/-- **Remarks are complete and exact.** The remarks of a form are first those on the rules of the
wrong shape, and then, field by field, what is due on the others. None stands twice. Of the
constraints that the rule of a field sets for its kind, each is either checked or remarked on. -/
theorem formOfJson_remarks (h : p.formOfJson rules definitions = .ok form) :
    (∃ fields, rules.members? = some fields ∧
      form.remarks = (fields.entries.flatMap fun e => setAside e.1 e.2) ++
        fields.entries.flatMap fun e => p.dueOn (RuleBook.definition? definitions) e.1 e.2) ∧
    form.remarks.Nodup ∧
    ∀ field c, form.get? field = some c → ∃ v r, rules.member? field = some v ∧
      Requirement.ofJson (RuleBook.definition? definitions) field v = .ok r ∧
      c.inspection.size + (form.remarksOn field).countP Remark.losesConstraint =
        r.kind.constraints.countP r.sets := by
  refine ⟨remarks_of_formOfJson h, Form.nodup_remarks fun field => ?_,
    fun field c hc => size_add_countP_remarksOn h hc⟩
  rw [remarksOn_of_formOfJson h]
  cases rules.member? field with
  | none => exact List.nodup_nil
  | some v => exact nodup_remarksOn p field _

end Policy

namespace Sample

/-- One rule with a pattern that is none, and with a message that belongs to no constraint. -/
def code : Json :=
  .object
    [("code", .object
      [("type", .text "string"), ("minLength", .ofUInt64 2), ("pattern", .text "("),
        ("errorMessageLength", .text "Two signs at least")])]

end Sample

open Sample in
/-- The code is checked for its length, and its pattern is remarked on. -/
theorem formOfJson_remarks_code :
    ∃ form c, policy.formOfJson code .null = .ok form ∧ form.get? "code" = some c ∧
      form.remarks =
        [.shortfall "code" (.invalidPattern "("),
          .shortfall "code" (.unknownMessageKey "errorMessageLength")] ∧
      form.remarks.Nodup ∧
      ∃ v r, code.member? "code" = some v ∧
        Requirement.ofJson (RuleBook.definition? .null) "code" v = .ok r ∧
        c.inspection.size + (form.remarksOn "code").countP Remark.losesConstraint =
          r.kind.constraints.countP r.sets := by
  obtain ⟨-, hnodup, hsize⟩ :=
    Policy.formOfJson_remarks (show policy.formOfJson code .null = .ok _ from rfl)
  exact ⟨_, _, rfl, rfl, by decide +kernel, hnodup, hsize "code" _ rfl⟩

end FormCheck
