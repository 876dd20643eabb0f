import FormCheck.Proofs.Attributes

/-!
# The grammar of written rules

Which values are rules, what rule such a value is, and what is reported of all others, said without
the reader.

The reader is the one by which a `FieldRule` is deserialized.

* `Rule.grammar`: the keys of the attributes and what their values consist of. `Rule.Allows` are the
  members that the grammar allows, and `Rule.Blames` is what is reported of a member that it does not.
* `Rule.readMember_eq_error_iff`, `Rule.readMembers_eq_error_iff`: one member is reported exactly if
  the grammar blames it, and of all members the first such one is.
* `Rule.SpelledBy`: a rule as an object spells it. `Rule.SpelledBy.unique`: an object spells one rule.
* `Rule.readMembers_filter_counts`: members that belong to no rule make no difference.
* **`Rule.ofJson_grammar`**: the reader follows the grammar.
-/

namespace FormCheck

namespace Rule

/-! ## Members -/

/-- The keys of the attributes, and what their values consist of. -/
def grammar : List (String × Content) :=
  [("type", .text), ("required", .truth), ("minLength", .length), ("maxLength", .length),
    ("pattern", .text), ("allowedValues", .texts), ("minValue", .number), ("maxValue", .number),
    ("minDate", .text), ("customRule", .text), ("$ref", .text)]

/-- **What the grammar allows**: `null` or the content of the attribute under the key of one, and
anything under other keys. -/
def Allows (key : String) (v : Json) : Prop :=
  ∀ c, (key, c) ∈ grammar → v = .null ∨ c.Fits v

/-- **What is reported of a member** that the grammar does not allow. -/
def Blames (key : String) (v : Json) (e : ShapeError) : Prop :=
  v ≠ .null ∧ ∃ c, (key, c) ∈ grammar ∧ c.Faults v e

/-- Whether a member has an effect: it belongs to an attribute, or it is a message. -/
def counts (member : String × Json) : Bool :=
  (grammar.map Prod.fst).contains member.1 || (Messages.ofMember? member.1 member.2).isSome

theorem grammar_eq : grammar = Attribute.all.map fun a => (a.key, a.codec.content) := rfl

theorem mem_grammar_iff {key : String} {c : Content} :
    (key, c) ∈ grammar ↔ ∃ a ∈ Attribute.all, a.key = key ∧ a.codec.content = c := by
  simp [grammar_eq]

theorem content_unique {key : String} {c c' : Content} (h : (key, c) ∈ grammar)
    (h' : (key, c') ∈ grammar) : c = c' := by
  have hnodup : (grammar.map Prod.fst).Nodup := Attribute.nodup_keys
  have hfind := Entries.find?_eq_some_of_mem hnodup h
  rw [Entries.find?_eq_some_of_mem hnodup h'] at hfind
  exact (Option.some.inj hfind).symm

variable {r r' : Rule} {key : String} {v : Json} {e : ShapeError}

theorem allows_iff : Allows key v ↔ ∀ e, ¬ Blames key v e := by
  constructor
  · rintro h e ⟨hnull, c, hc, hfault⟩
    obtain ⟨a, -, -, rfl⟩ := mem_grammar_iff.1 hc
    rcases h _ hc with rfl | hfits
    · exact hnull rfl
    · exact (a.codec.fits_iff_not_faults v).1 hfits e hfault
  · intro h c hc
    by_cases hnull : v = .null
    · exact Or.inl hnull
    · obtain ⟨a, -, -, rfl⟩ := mem_grammar_iff.1 hc
      exact Or.inr ((a.codec.fits_iff_not_faults v).2 fun e he => h e ⟨hnull, _, hc, he⟩)

/-- A member with another key is no attribute, and becomes a message if it is one. -/
theorem readMember_of_not_mem (hkey : key ∉ grammar.map Prod.fst) (r : Rule) (v : Json) :
    r.readMember key v =
      .ok (if Messages.isKey key then r.withMessages (r.messages.takeUp key v) else r) := by
  cases h : Messages.isKey key with
  | true => exact readMember_of_isKey r h v
  | false =>
    unfold readMember
    split
    case h_12 =>
      split
      · exact if_neg (Bool.eq_false_iff.1 h)
      · rfl
    all_goals exact absurd (by decide +kernel) hkey

/-- **A member is reported exactly if the grammar blames it.** -/
theorem readMember_eq_error_iff : r.readMember key v = .error e ↔ Blames key v e := by
  by_cases hkey : key ∈ grammar.map Prod.fst
  · obtain ⟨⟨_, c⟩, hmem, rfl⟩ := List.mem_map.1 hkey
    obtain ⟨a, -, rfl, rfl⟩ := mem_grammar_iff.1 hmem
    have hmap : r.readMember a.key v = .error e ↔ Shape.optional a.codec.read v = .error e := by
      rw [a.own]
      cases Shape.optional a.codec.read v <;> simp [Except.map]
    rw [hmap, a.codec.optional_eq_error_iff]
    refine and_congr_right fun _ => ⟨fun h => ⟨_, hmem, h⟩, ?_⟩
    rintro ⟨c, hc, h⟩
    exact content_unique hc hmem ▸ h
  · rw [readMember_of_not_mem hkey]
    constructor
    · intro h
      cases h
    · rintro ⟨-, c, hc, -⟩
      exact absurd (List.mem_map_of_mem hc) hkey

theorem exists_readMember_iff : (∃ r', r.readMember key v = .ok r') ↔ Allows key v := by
  rw [allows_iff]
  simp only [← readMember_eq_error_iff (r := r)]
  cases r.readMember key v <;> simp

/-- **Of all members the first one that the grammar blames is reported.** -/
theorem readMembers_eq_error_iff {es : List (String × Json)} :
    r.readMembers es = .error e ↔
      ∃ before key v after, es = before ++ (key, v) :: after ∧
        (∀ m ∈ before, Allows m.1 m.2) ∧ Blames key v e := by
  induction es generalizing r with
  | nil => simp [readMembers]
  | cons m rest ih =>
    obtain ⟨k, w⟩ := m
    rw [readMembers]
    cases hone : r.readMember k w with
    | error e' =>
      have hblame : Blames k w e' := readMember_eq_error_iff.1 hone
      constructor
      · intro h
        obtain rfl := Except.error.inj h
        exact ⟨[], k, w, rest, rfl, fun _ hm => absurd hm List.not_mem_nil, hblame⟩
      · rintro ⟨before, key, v, after, hsplit, hallow, hb⟩
        cases before with
        | nil =>
          obtain ⟨hm, -⟩ := List.cons.inj hsplit
          cases hm
          rw [← readMember_eq_error_iff (r := r), hone] at hb
          exact hb
        | cons m before =>
          obtain ⟨rfl, -⟩ := List.cons.inj hsplit
          exact absurd hblame (allows_iff.1 (hallow _ List.mem_cons_self) e')
    | ok r₁ =>
      have hallowed : Allows k w := exists_readMember_iff.1 ⟨r₁, hone⟩
      show r₁.readMembers rest = .error e ↔ _
      rw [ih]
      constructor
      · rintro ⟨before, key, v, after, rfl, hallow, hb⟩
        refine ⟨(k, w) :: before, key, v, after, rfl, ?_, hb⟩
        rintro m hm
        rcases List.mem_cons.1 hm with rfl | hm
        · exact hallowed
        · exact hallow m hm
      · rintro ⟨before, key, v, after, hsplit, hallow, hb⟩
        cases before with
        | nil =>
          obtain ⟨hm, -⟩ := List.cons.inj hsplit
          cases hm
          exact absurd hb (allows_iff.1 hallowed e)
        | cons m before =>
          exact ⟨before, key, v, after, (List.cons.inj hsplit).2,
            fun m hm => hallow m (List.mem_cons_of_mem _ hm), hb⟩

theorem exists_readMembers_iff {es : List (String × Json)} :
    (∃ r', r.readMembers es = .ok r') ↔ ∀ m ∈ es, Allows m.1 m.2 := by
  induction es generalizing r with
  | nil => simp [readMembers]
  | cons m rest ih =>
    obtain ⟨k, w⟩ := m
    rw [List.forall_mem_cons, ← exists_readMember_iff (r := r), ← ih (r := {})]
    constructor
    · rintro ⟨r', h⟩
      obtain ⟨r₁, hone, hrest⟩ := readMembers_cons_eq_ok_iff.1 h
      exact ⟨⟨r₁, hone⟩, ih.2 (ih.1 ⟨r', hrest⟩)⟩
    · rintro ⟨⟨r₁, hone⟩, hrest⟩
      obtain ⟨r', hr'⟩ := ih (r := r₁).2 (ih.1 hrest)
      exact ⟨r', readMembers_cons_eq_ok_iff.2 ⟨r₁, hone, hr'⟩⟩

/-! ## Members that belong to no rule -/

/-- A member without effect is passed over. -/
theorem readMember_of_not_counts {m : String × Json} (h : counts m = false) (r : Rule) :
    r.readMember m.1 m.2 = .ok r := by
  obtain ⟨key, v⟩ := m
  rw [counts, Bool.or_eq_false_iff, List.contains_eq_mem, decide_eq_false_iff_not,
    Option.isSome_eq_false_iff, Option.isNone_iff_eq_none] at h
  rw [readMember_of_not_mem h.1]
  by_cases hkey : Messages.isKey key = true
  · have htext : v.text? = none := by simpa [Messages.ofMember?, hkey] using h.2
    rw [if_pos hkey, Messages.takeUp, htext]
    rfl
  · rw [if_neg hkey]

/-- **Members that belong to no rule make no difference.** -/
theorem readMembers_filter_counts (r : Rule) (es : List (String × Json)) :
    r.readMembers (es.filter counts) = r.readMembers es := by
  induction es generalizing r with
  | nil => rfl
  | cons m rest ih =>
    cases hm : counts m with
    | true =>
      rw [List.filter_cons_of_pos hm, readMembers, readMembers]
      cases r.readMember m.1 m.2 with
      | error e => rfl
      | ok r₁ => exact ih r₁
    | false =>
      rw [List.filter_cons_of_neg (by simp [hm]), readMembers, readMember_of_not_counts hm r]
      exact ih r

/-! ## The rule that an object spells -/

/-- **What rule an object spells**: each attribute is what the member with its key states, and the
messages are the texts under the keys of messages, in their order. -/
structure SpelledBy (r : Rule) (members : Dict Json) : Prop where
  attributes : ∀ a ∈ Attribute.all, Stated a.codec.Spells (members.get? a.key) (a.get r)
  messages : r.messages = Messages.ofMembers members

variable {members : Dict Json}

/-- An object spells one rule at most. -/
theorem SpelledBy.unique (h : SpelledBy r members) (h' : SpelledBy r' members) : r = r' :=
  ext_attributes (fun a ha => a.codec.stated_unique (h.attributes a ha) (h'.attributes a ha))
    (h.messages.trans h'.messages.symm)

/-- An object that spells a rule holds nothing that the grammar does not allow. -/
theorem SpelledBy.allows (h : SpelledBy r members) {m : String × Json} (hm : m ∈ members.entries) :
    Allows m.1 m.2 := by
  obtain ⟨key, w⟩ := m
  intro c hc
  obtain ⟨a, ha, rfl, rfl⟩ := mem_grammar_iff.1 hc
  have hstated := h.attributes a ha
  rw [Dict.get?_eq_some_iff.2 hm] at hstated
  generalize a.get r = x at hstated
  cases hstated with
  | null => exact Or.inl rfl
  | value hv => exact Or.inr ((a.codec.fits_iff _).2 ⟨_, hv⟩)

theorem spelledBy_of_ofJson (hm : v.members? = some members) (h : ofJson v = .ok r) :
    SpelledBy r members := by
  constructor
  · intro a ha
    have hread := Reads.of_ofJson a.reads h
    rw [Json.member?, hm, Option.bind_some, Attribute.get_empty ha] at hread
    cases hget : members.get? a.key with
    | none =>
      rw [hget] at hread
      rw [show a.get r = none from hread]
      exact .absent
    | some w =>
      rw [hget] at hread
      exact (a.codec.optional_eq_ok_iff).1 hread
  · obtain ⟨members', hm', hmessages⟩ := messages_of_ofJson h
    obtain rfl := Option.some.inj (hm.symm.trans hm')
    exact hmessages

theorem ofJson_of_members? (hm : v.members? = some members) :
    ofJson v = readMembers {} members.entries := by
  rw [ofJson, Shape.members, hm]

/-- **The rule of an object is the one that it spells.** -/
theorem ofJson_eq_ok_iff_spelledBy (hm : v.members? = some members) :
    ofJson v = .ok r ↔ SpelledBy r members := by
  constructor
  · exact spelledBy_of_ofJson hm
  · intro h
    obtain ⟨r', hr'⟩ := (exists_readMembers_iff (r := {})).2 fun m hmem => h.allows hmem
    rw [← ofJson_of_members? hm] at hr'
    rw [hr', h.unique (spelledBy_of_ofJson hm hr')]

/-! ## Reordered objects -/

theorem messages_perm_of_perm {members' : Dict Json} (h : members.entries.Perm members'.entries) :
    (Messages.ofMembers members).entries.Perm (Messages.ofMembers members').entries := by
  rw [Messages.ofMembers_eq_filterMap, Messages.ofMembers_eq_filterMap]
  exact h.filterMap _

/-- The members of an object in another order spell the same attributes. -/
theorem SpelledBy.of_perm {members' : Dict Json} (h : SpelledBy r members)
    (hperm : members.entries.Perm members'.entries) :
    SpelledBy (r.withMessages (Messages.ofMembers members')) members' := by
  refine ⟨fun a ha => ?_, rfl⟩
  rw [Attribute.get_withMessages ha, ← Dict.get?_congr_of_perm hperm]
  exact h.attributes a ha

/-! ## The grammar -/

/-- A value is a rule exactly if it is an object whose members are all allowed. -/
theorem exists_ofJson_iff :
    (∃ r, ofJson v = .ok r) ↔
      ∃ members, v.members? = some members ∧ ∀ m ∈ members.entries, Allows m.1 m.2 := by
  constructor
  · rintro ⟨r, h⟩
    obtain ⟨members, hm, hread⟩ := ofJson_eq_ok_iff.1 h
    exact ⟨members, hm, exists_readMembers_iff.1 ⟨r, hread⟩⟩
  · rintro ⟨members, hm, hallow⟩
    rw [ofJson_of_members? hm]
    exact exists_readMembers_iff.2 hallow

theorem ofJson_eq_ok_iff_exists_spelledBy :
    ofJson v = .ok r ↔ ∃ members, v.members? = some members ∧ SpelledBy r members := by
  constructor
  · intro h
    obtain ⟨members, hm, -⟩ := ofJson_eq_ok_iff.1 h
    exact ⟨members, hm, spelledBy_of_ofJson hm h⟩
  · rintro ⟨members, hm, h⟩
    exact (ofJson_eq_ok_iff_spelledBy hm).2 h

/-- Of an object the first member is reported that is not allowed. -/
theorem ofJson_eq_error_iff :
    ofJson v = .error e ↔
      (v.members? = none ∧ e = .wrongType v "struct FieldRule") ∨
      ∃ members before key w after, v.members? = some members ∧
        members.entries = before ++ (key, w) :: after ∧
          (∀ m ∈ before, Allows m.1 m.2) ∧ Blames key w e := by
  cases hm : v.members? with
  | none => simp [ofJson, Shape.members, hm, eq_comm]
  | some members =>
    rw [ofJson_of_members? hm, readMembers_eq_error_iff]
    simp

/-- Members that belong to no rule may be left out or put in. -/
theorem ofJson_congr_of_counts {v' : Json} {members' : Dict Json} (hm : v.members? = some members)
    (hm' : v'.members? = some members')
    (hcounts : members.entries.filter counts = members'.entries.filter counts) :
    ofJson v = ofJson v' := by
  rw [ofJson_of_members? hm, ofJson_of_members? hm', ← readMembers_filter_counts, hcounts,
    readMembers_filter_counts]

/-- An object with its members in another order is the same rule but for the order of its
messages. -/
theorem ofJson_of_perm {v' : Json} {members' : Dict Json} (hm : v.members? = some members)
    (hm' : v'.members? = some members') (hperm : members.entries.Perm members'.entries)
    (h : ofJson v = .ok r) : ofJson v' = .ok (r.withMessages (Messages.ofMembers members')) :=
  (ofJson_eq_ok_iff_spelledBy hm').2 ((spelledBy_of_ofJson hm h).of_perm hperm)

/-- **The reader follows the grammar.** A value is a rule exactly if it is an object whose members are
all allowed. It is then the rule that the object spells, and the members that belong to no rule make
no difference. Of all other objects the first member is reported that is not allowed. So the order of
the members decides nothing but the order of the messages, and which fault is reported. -/
theorem ofJson_grammar (v : Json) :
    ((∃ r, ofJson v = .ok r) ↔
      ∃ members, v.members? = some members ∧ ∀ m ∈ members.entries, Allows m.1 m.2) ∧
    (∀ r, ofJson v = .ok r ↔ ∃ members, v.members? = some members ∧ SpelledBy r members) ∧
    (∀ e, ofJson v = .error e ↔
      (v.members? = none ∧ e = .wrongType v "struct FieldRule") ∨
      ∃ members before key w after, v.members? = some members ∧
        members.entries = before ++ (key, w) :: after ∧
          (∀ m ∈ before, Allows m.1 m.2) ∧ Blames key w e) ∧
    ∀ v' members members', v.members? = some members → v'.members? = some members' →
      (members.entries.filter counts = members'.entries.filter counts → ofJson v = ofJson v') ∧
      (members.entries.Perm members'.entries →
        ((∃ r, ofJson v = .ok r) ↔ ∃ r', ofJson v' = .ok r') ∧
        ∀ r r', ofJson v = .ok r → ofJson v' = .ok r' →
          r' = r.withMessages r'.messages ∧
            r.messages.entries.Perm r'.messages.entries) := by
  refine ⟨exists_ofJson_iff, fun r => ofJson_eq_ok_iff_exists_spelledBy,
    fun e => ofJson_eq_error_iff, fun v' members members' hm hm' => ?_⟩
  refine ⟨ofJson_congr_of_counts hm hm', fun hperm => ⟨⟨?_, ?_⟩, ?_⟩⟩
  · rintro ⟨r, h⟩
    exact ⟨_, ofJson_of_perm hm hm' hperm h⟩
  · rintro ⟨r', h⟩
    exact ⟨_, ofJson_of_perm hm' hm hperm.symm h⟩
  · intro r r' h h'
    have hr' : r.withMessages (Messages.ofMembers members') = r' :=
      Except.ok.inj ((ofJson_of_perm hm hm' hperm h).symm.trans h')
    rw [← hr', (spelledBy_of_ofJson hm h).messages]
    exact ⟨rfl, messages_perm_of_perm hperm⟩

end Rule

namespace Sample

/-- A rule with two messages, and a member that belongs to no rule. -/
def note : Json :=
  .object
    [("type", .text "string"), ("errorMessageType", .text "no text"), ("hint", .bool true),
      ("maxLength", .ofUInt64 3), ("errorMessageMaxLength", .text "too long")]

/-- The same members, from the last to the first. -/
def noteBackwards : Json :=
  .object
    [("errorMessageMaxLength", .text "too long"), ("maxLength", .ofUInt64 3), ("hint", .bool true),
      ("errorMessageType", .text "no text"), ("type", .text "string")]

/-- The rule of a note with some messages. -/
def noteRule (messages : List (String × String)) : Rule :=
  { kind := some .text, maxLength := some 3, messages := .ofList messages }

end Sample

open Sample in
/-- Read backwards, the note is the same rule up to the order of its messages. -/
theorem ofJson_grammar_note :
    ∃ r', Rule.ofJson noteBackwards = .ok r' ∧
      r' = (noteRule []).withMessages r'.messages ∧
      r'.messages.entries =
        [("errorMessageMaxLength", "too long"), ("errorMessageType", "no text")] := by
  have hread : Rule.ofJson note =
      .ok (noteRule [("errorMessageType", "no text"), ("errorMessageMaxLength", "too long")]) := rfl
  have hback : Rule.ofJson noteBackwards =
      .ok (noteRule [("errorMessageMaxLength", "too long"), ("errorMessageType", "no text")]) := rfl
  obtain ⟨-, -, -, hother⟩ := Rule.ofJson_grammar note
  obtain ⟨-, hperm⟩ := hother noteBackwards _ _ rfl rfl
  obtain ⟨-, hsame⟩ := hperm (List.reverse_perm _).symm
  exact ⟨_, hback, (hsame _ _ hread hback).1, rfl⟩

end FormCheck
