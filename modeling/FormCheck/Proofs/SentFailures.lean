import FormCheck.Failure

/-!
# Failures as they are sent on

A failure is built by one constructor and then changed: it is given named values, a field, another
message. What it holds can be asked of the failure itself (`Failure.param?`) and of the object that is
sent on (`Failure.sent?`). Both know the same names. But where a name is given more than once, the
failure tells its first value and the object its last one.

`Failure.Change` are the calls of `with_param`, `with_field` and `with_message`; `Failure.param?` is
`param`, and `Failure.sent?` looks into the object as which a `ValidationFailure` is serialized.

* `Failure.params_changes`: the named values after a run of changes, in the order of the changes.
* `FirstUnder`, `LastUnder`: the first and the last value that a list gives to a name.
* `Failure.param?_eq_some_iff`, `Failure.sent?_eq_some_iff`: the failure tells the one, the object the
  other.
* **`Failure.sent_eq_param_iff`**: the object shows the value that the failure tells exactly if the
  first value under the name is the last one.
* `Failure.not_forall_sent_eq_param`: this does not hold of every run of changes.
-/

namespace FormCheck

/-! ## The first and the last value under a name -/

section

variable {α : Type}

/-- **The first value under a name.** -/
def FirstUnder (name : String) (es : List (String × α)) (value : α) : Prop :=
  ∃ before after, es = before ++ (name, value) :: after ∧ name ∉ before.map Prod.fst

/-- **The last value under a name.** -/
def LastUnder (name : String) (es : List (String × α)) (value : α) : Prop :=
  ∃ before after, es = before ++ (name, value) :: after ∧ name ∉ after.map Prod.fst

variable {name : String} {es : List (String × α)} {value : α}

theorem find?_eq_some_iff_firstUnder :
    Entries.find? name es = some value ↔ FirstUnder name es value := by
  constructor
  · intro h
    induction es with
    | nil => cases h
    | cons e rest ih =>
      obtain ⟨k, v⟩ := e
      by_cases hk : k = name
      · subst hk
        obtain rfl : v = value := by simpa [Entries.find?] using h
        exact ⟨[], rest, rfl, List.not_mem_nil⟩
      · obtain ⟨before, after, rfl, hnew⟩ := ih (by simpa [Entries.find?, hk] using h)
        refine ⟨(k, v) :: before, after, rfl, ?_⟩
        rw [List.map_cons, List.mem_cons, not_or]
        exact ⟨Ne.symm hk, hnew⟩
  · rintro ⟨before, after, rfl, hnew⟩
    exact Entries.find?_of_first hnew

theorem firstUnder_reverse_iff : FirstUnder name es.reverse value ↔ LastUnder name es value := by
  constructor
  · rintro ⟨before, after, h, hnew⟩
    refine ⟨after.reverse, before.reverse, ?_, ?_⟩
    · rw [← List.reverse_reverse es, h]
      simp
    · rwa [List.map_reverse, List.mem_reverse]
  · rintro ⟨before, after, rfl, hnew⟩
    refine ⟨after.reverse, before.reverse, by simp, ?_⟩
    rwa [List.map_reverse, List.mem_reverse]

end

/-! ## Objects with distinct names -/

/-- An object in which no name stands twice is looked up in as it is written. -/
theorem Json.member?_object {members : List (String × Json)} (nodup : (members.map Prod.fst).Nodup)
    (key : String) : (Json.object members).member? key = Entries.find? key members := by
  have hentries : (Dict.ofList members).entries = members := Dict.entries_insertAll_of_nodup nodup
  show Entries.find? key (Dict.ofList members).entries = _
  rw [hentries]

namespace Failure

/-! ## Runs of changes -/

/-- One change of a failure. -/
inductive Change where
  | param (name value : String)
  | field (field : String)
  | message (message : String)

/-- The failure after one change. -/
def change (f : Failure) : Change → Failure
  | .param name value => f.withParam name value
  | .field field => f.withField field
  | .message message => f.withMessage message

/-- The failure after some changes, the first one first. -/
def changes (f : Failure) (cs : List Change) : Failure := cs.foldl change f

/-- The named value that a change gives. -/
def Change.param? : Change → Option (String × String)
  | .param name value => some (name, value)
  | .field _ | .message _ => none

theorem params_change (f : Failure) (c : Change) :
    (f.change c).params = f.params ++ c.param?.toList := by
  cases c with
  | param name value => rfl
  | field field => exact (List.append_nil _).symm
  | message message => exact (List.append_nil _).symm

/-- **The named values after a run of changes**: those from the start, then those of the changes. -/
theorem params_changes (f : Failure) (cs : List Change) :
    (f.changes cs).params = f.params ++ cs.filterMap Change.param? := by
  induction cs generalizing f with
  | nil => exact (List.append_nil _).symm
  | cons c rest ih =>
    have hstep : f.changes (c :: rest) = (f.change c).changes rest := rfl
    rw [hstep, ih, params_change, List.append_assoc]
    congr 1
    cases hc : c.param? with
    | none => rw [List.filterMap_cons_none hc, Option.toList_none, List.nil_append]
    | some e => rw [List.filterMap_cons_some hc, Option.toList_some, List.singleton_append]

/-! ## The object that is sent on -/

/-- The value that the object sent on shows under a name of its `params`. -/
def sent? (f : Failure) (name : String) : Option Json :=
  (f.toJson.member? "params").bind (·.member? name)

/-- The members of the object: the field only if it is known, values only if there are any. -/
theorem member?_toJson (f : Failure) (key : String) :
    f.toJson.member? key = Entries.find? key
      ([("kind", .text f.constraint.code), ("message", .text f.message)] ++
        (f.field.map fun field => ("field", .text field)).toList ++
        if f.params = [] then []
        else [("params", .object (f.paramTable.mapValues fun _ v => .text v).entries)]) := by
  have hobject : f.toJson = .object
      ([("kind", .text f.constraint.code), ("message", .text f.message)] ++
        (f.field.map fun field => ("field", .text field)).toList ++
        if f.params = [] then []
        else [("params", .object (f.paramTable.mapValues fun _ v => .text v).entries)]) := by
    unfold toJson
    cases f.field <;> cases f.params <;> rfl
  rw [hobject]
  apply Json.member?_object
  cases f.field <;> by_cases hparams : f.params = [] <;> simp [hparams]

theorem member?_field (f : Failure) : f.toJson.member? "field" = f.field.map .text := by
  rw [member?_toJson]
  cases f.field <;> by_cases hparams : f.params = [] <;> simp [hparams, Entries.find?]

theorem member?_params (f : Failure) :
    f.toJson.member? "params" =
      if f.params = [] then none
      else some (.object (f.paramTable.mapValues fun _ v => .text v).entries) := by
  rw [member?_toJson]
  cases f.field <;> by_cases hparams : f.params = [] <;> simp [hparams, Entries.find?]

theorem sent?_eq_find? (f : Failure) (name : String) :
    f.sent? name = (Entries.find? name f.params.reverse).map .text := by
  unfold sent?
  rw [member?_params]
  by_cases hparams : f.params = []
  · rw [if_pos hparams, hparams]
    rfl
  · have htable : f.paramTable.get? name = Entries.find? name f.params.reverse := by
      rw [paramTable, Dict.ofList, Dict.get?_insertAll, Dict.get?_empty, Option.or_none]
    rw [if_neg hparams, Option.bind_some, Json.member?_object (Dict.nodup _), ← htable]
    exact Dict.get?_mapValues _ f.paramTable name

variable {f : Failure} {name : String}

/-- **The failure tells the first value under a name.** -/
theorem param?_eq_some_iff {value : String} :
    f.param? name = some value ↔ FirstUnder name f.params value :=
  find?_eq_some_iff_firstUnder

/-- **The object that is sent on shows the last value under a name.** -/
theorem sent?_eq_some_iff {v : Json} :
    f.sent? name = some v ↔ ∃ value, LastUnder name f.params value ∧ .text value = v := by
  rw [sent?_eq_find?, Option.map_eq_some_iff]
  simp only [find?_eq_some_iff_firstUnder, firstUnder_reverse_iff]

theorem isSome_sent? (f : Failure) (name : String) :
    (f.sent? name).isSome = (f.param? name).isSome := by
  rw [sent?_eq_find?, Option.isSome_map, param?, Bool.eq_iff_iff]
  simp only [Option.isSome_iff_ne_none, ne_eq, Entries.find?_eq_none_iff, List.map_reverse,
    List.mem_reverse]

/-- **What is sent on is what the failure tells, if the first value under the name is the last.** A
failure is built by any constructor and then changed any number of times. The object that is sent on
has a value under exactly the names under which the failure has one. It is the same value exactly if
the first of the values that start and changes give to the name equals the last of them. The object
names the field exactly if it is set, and has values exactly if there are any. -/
theorem sent_eq_param_iff (start : Failure) (cs : List Change) :
    (∀ name, ((start.changes cs).sent? name).isSome = ((start.changes cs).param? name).isSome) ∧
    (∀ name, (start.changes cs).sent? name = ((start.changes cs).param? name).map .text ↔
      ∀ first last, FirstUnder name (start.params ++ cs.filterMap Change.param?) first →
        LastUnder name (start.params ++ cs.filterMap Change.param?) last → first = last) ∧
    (start.changes cs).toJson.member? "field" = (start.changes cs).field.map .text ∧
    (((start.changes cs).toJson.member? "params").isSome = true ↔
      start.params ++ cs.filterMap Change.param? ≠ []) := by
  rw [← params_changes]
  generalize start.changes cs = f
  refine ⟨isSome_sent? f, fun name => ?_, member?_field f, ?_⟩
  · constructor
    · intro h first last hfirst hlast
      have hsent : f.sent? name = some (.text last) := sent?_eq_some_iff.2 ⟨last, hlast, rfl⟩
      rw [param?_eq_some_iff.2 hfirst, hsent] at h
      exact (Json.text.inj (Option.some.inj h)).symm
    · intro h
      have hsome := isSome_sent? f name
      cases hparam : f.param? name with
      | none =>
        rw [hparam, Option.isSome_none, Option.isSome_eq_false_iff, Option.isNone_iff_eq_none] at hsome
        rw [hsome, Option.map_none]
      | some first =>
        rw [hparam, Option.isSome_some, Option.isSome_iff_exists] at hsome
        obtain ⟨v, hv⟩ := hsome
        obtain ⟨last, hlast, rfl⟩ := sent?_eq_some_iff.1 hv
        rw [hv, h first last (param?_eq_some_iff.1 hparam) hlast, Option.map_some]
  · rw [member?_params]
    by_cases hparams : f.params = [] <;> simp [hparams]

/-- A text that is too long, of which a second limit is told afterwards: the failure keeps to the
first limit, and the object shows the second. -/
theorem sent_eq_param_iff_maxLength :
    FirstUnder "maxLength" ((maxLength 100).params ++ [("maxLength", "5")]) "100" ∧
    LastUnder "maxLength" ((maxLength 100).params ++ [("maxLength", "5")]) "5" ∧
    ((maxLength 100).changes [.param "maxLength" "5"]).sent? "maxLength" ≠
      (((maxLength 100).changes [.param "maxLength" "5"]).param? "maxLength").map .text := by
  obtain ⟨-, hagree, -, -⟩ := sent_eq_param_iff (maxLength 100) [.param "maxLength" "5"]
  have hfirst : FirstUnder "maxLength" ((maxLength 100).params ++ [("maxLength", "5")]) "100" :=
    ⟨[], [("maxLength", "5")], by decide +kernel, List.not_mem_nil⟩
  have hlast : LastUnder "maxLength" ((maxLength 100).params ++ [("maxLength", "5")]) "5" :=
    ⟨(maxLength 100).params, [], rfl, List.not_mem_nil⟩
  refine ⟨hfirst, hlast, fun h => ?_⟩
  have hsame : "100" = "5" := (hagree "maxLength").1 h _ _ hfirst hlast
  exact absurd hsame (by decide)

/-- **What is sent on may differ from what the failure tells.** -/
theorem not_forall_sent_eq_param :
    ¬ ∀ (max : UInt64) (cs : List Change) (name : String),
      ((maxLength max).changes cs).sent? name =
        (((maxLength max).changes cs).param? name).map .text := by
  intro h
  have hsame := h 100 [.param "maxLength" "5"] "maxLength"
  have hsent : ((maxLength 100).changes [.param "maxLength" "5"]).sent? "maxLength" =
      some (.text "5") := by
    rw [sent?_eq_find?]
    rfl
  have hparam : ((maxLength 100).changes [.param "maxLength" "5"]).param? "maxLength" =
      some "100" := by decide +kernel
  rw [hsent, hparam, Option.map_some, Option.some.injEq, Json.text.injEq] at hsame
  exact absurd hsame (by decide)

end Failure

end FormCheck
