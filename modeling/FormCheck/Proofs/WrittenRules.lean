import FormCheck.RuleBook

/-!
# What is read from a written rule

A rule is read from an object member by member, each member on top of what was read before it. This
file says what comes out at the end, in terms of the object alone.

The object is one from which a `FieldRule` is deserialized.

* `Rule.readMember_of_isKey`, `Rule.readMember_withMessages`: the two sorts of members. A member with
  the key of a message never fails and changes nothing but the messages; any other member neither
  looks at the messages nor changes them.
* `Rule.messages_of_ofJson`: the messages of a rule are the texts of its object under such keys, in
  their order.
* `Rule.Reads`: an attribute of rules with its key and its reader. `Rule.Reads.of_ofJson`: the
  attribute of a rule is what the reader makes of the member with that key.
* `Rule.AgreeBut`: two rules with the same attributes but for the one with a given key.
  `Rule.agreeBut_of_readMember`: this is what a member leaves of a rule, whence `Rule.Reads.of_set`.
-/

namespace FormCheck

namespace Json

/-- The text that a value is. -/
def text? : Json → Option String
  | .text s => some s
  | _ => none

/-- The text that an object holds under a key. -/
def textMember? (key : String) (v : Json) : Option String := (v.member? key).bind text?

end Json

namespace Messages

/-- The messages with one more member of an object taken up, whose key is that of a message. -/
def takeUp (m : Messages) (key : String) (v : Json) : Messages :=
  match v.text? with
  | some template => m.insert key template
  | none => m

/-- The template that a member of an object is. -/
def ofMember? (key : String) (v : Json) : Option String := if isKey key then v.text? else none

theorem ofMembers_eq_filterMap (members : Dict Json) :
    ofMembers members = members.filterMap ofMember? := by
  unfold ofMembers ofMember?
  congr 1

end Messages

namespace Rule

/-- The rule with other messages. -/
def withMessages (r : Rule) (m : Messages) : Rule := { r with messages := m }

/-! ## Single members -/

theorem readMember_of_isKey (r : Rule) {key : String} (h : Messages.isKey key = true) (v : Json) :
    r.readMember key v = .ok (r.withMessages (r.messages.takeUp key v)) := by
  unfold readMember
  split
  case h_12 =>
    cases v with
    | text template =>
      simp only [if_pos h]
      rfl
    | _ => rfl
  all_goals exact absurd h (by decide +kernel)

/-- Any other member has nothing to do with the messages. -/
theorem readMember_withMessages (r : Rule) (m : Messages) {key : String}
    (h : Messages.isKey key = false) (v : Json) :
    (r.withMessages m).readMember key v = (r.readMember key v).map (·.withMessages m) := by
  have map_map : ∀ {α : Type} (x : Except ShapeError α) (set : α → Rule),
      (x.map set).map (·.withMessages m) = x.map fun a => (set a).withMessages m := by
    intro α x set
    cases x <;> rfl
  fun_cases readMember r key v
  case case12 hkey => exact absurd hkey (Bool.eq_false_iff.1 h)
  case case13 => simp [readMember, *, Except.map]
  case case14 => simp [readMember, *, Except.map]
  all_goals
    rw [map_map]
    rfl

/-! ## All members -/

theorem readMembers_cons_eq_ok_iff {r r' : Rule} {key : String} {v : Json}
    {rest : List (String × Json)} :
    r.readMembers ((key, v) :: rest) = .ok r' ↔
      ∃ r₁, r.readMember key v = .ok r₁ ∧ r₁.readMembers rest = .ok r' := by
  rw [readMembers]
  cases r.readMember key v <;> simp

/-- A rule is read from the members of an object, on top of the rule that states nothing. -/
theorem ofJson_eq_ok_iff {v : Json} {rule : Rule} :
    ofJson v = .ok rule ↔
      ∃ members, v.members? = some members ∧ readMembers {} members.entries = .ok rule := by
  unfold ofJson Shape.members
  cases v.members? <;> simp

/-! ## Messages -/

theorem messages_of_readMember {r r' : Rule} {key : String} {v : Json}
    (new : key ∉ r.messages.keys) (h : r.readMember key v = .ok r') :
    r'.messages.entries = r.messages.entries ++ Dict.pickEntries Messages.ofMember? [(key, v)] := by
  cases hkey : Messages.isKey key with
  | true =>
    rw [readMember_of_isKey r hkey v] at h
    cases h
    show (r.messages.takeUp key v).entries = _
    unfold Messages.takeUp
    cases ht : v.text? with
    | none => simp [Dict.pickEntries, Messages.ofMember?, hkey, ht]
    | some template =>
      simp [Dict.entries_insert_of_not_mem _ _ new, Dict.pickEntries, Messages.ofMember?, hkey, ht]
  | false =>
    -- Reading on top of the rule with its own messages puts them back, so they are untouched.
    have hself : r.readMember key v = (r.readMember key v).map (·.withMessages r.messages) :=
      readMember_withMessages r r.messages hkey v
    rw [h] at hself
    have hsame : r' = r'.withMessages r.messages := Except.ok.inj hself
    rw [hsame]
    simp [Dict.pickEntries, Messages.ofMember?, hkey, withMessages]

theorem messages_of_readMembers {es : List (String × Json)} {r r' : Rule}
    (nodup : (es.map Prod.fst).Nodup) (new : ∀ key ∈ es.map Prod.fst, key ∉ r.messages.keys)
    (h : r.readMembers es = .ok r') :
    r'.messages.entries = r.messages.entries ++ Dict.pickEntries Messages.ofMember? es := by
  induction es generalizing r with
  | nil =>
    cases h
    exact (List.append_nil _).symm
  | cons e rest ih =>
    obtain ⟨key, v⟩ := e
    rw [List.map_cons, List.nodup_cons] at nodup
    obtain ⟨r₁, hone, hrest⟩ := readMembers_cons_eq_ok_iff.1 h
    have hentries := messages_of_readMember (new key List.mem_cons_self) hone
    have hnew : ∀ k ∈ rest.map Prod.fst, k ∉ r₁.messages.keys := by
      intro k hk hmem
      rw [Dict.keys, hentries, List.map_append, List.mem_append] at hmem
      rcases hmem with hmem | hmem
      · exact new k (List.mem_cons_of_mem _ hk) hmem
      · have hsub := (Dict.pickEntries_fst_sublist Messages.ofMember? [(key, v)]).subset hmem
        exact nodup.1 (List.mem_singleton.1 hsub ▸ hk)
    rw [ih nodup.2 hnew hrest, hentries, List.append_assoc]
    exact congrArg _ List.filterMap_append.symm

/-- **The messages of a rule** are the texts that its object holds under the keys of messages. -/
theorem messages_of_ofJson {v : Json} {rule : Rule} (h : ofJson v = .ok rule) :
    ∃ members, v.members? = some members ∧ rule.messages = Messages.ofMembers members := by
  obtain ⟨members, hm, hread⟩ := ofJson_eq_ok_iff.1 h
  refine ⟨members, hm, Dict.ext_entries ?_⟩
  rw [Messages.ofMembers_eq_filterMap]
  exact messages_of_readMembers members.nodup (fun _ _ => List.not_mem_nil) hread

theorem get?_messages_of_ofJson {v : Json} {rule : Rule} (h : ofJson v = .ok rule) {key : String}
    (hkey : Messages.isKey key = true) : rule.messages.get? key = v.textMember? key := by
  obtain ⟨members, hm, hmessages⟩ := messages_of_ofJson h
  rw [hmessages, Messages.ofMembers_eq_filterMap, Dict.get?_filterMap, Json.textMember?,
    Json.member?, hm, Option.bind_some]
  congr 1
  funext w
  exact if_pos hkey

/-! ## Attributes -/

variable {α : Type} {get : Rule → Option α} {key : String} {read : Json → Except ShapeError α}

/-- **An attribute of rules**: the members with its key set it to what its reader makes of them, and
all other members leave it as it is. -/
def Reads (get : Rule → Option α) (key : String) (read : Json → Except ShapeError α) : Prop :=
  ∀ {r r' : Rule} {k : String} {v : Json}, r.readMember k v = .ok r' →
    if k = key then Shape.optional read v = .ok (get r') else get r' = get r

theorem Reads.of_readMembers (h : Reads get key read) {es : List (String × Json)} {r r' : Rule}
    (nodup : (es.map Prod.fst).Nodup) (hr : r.readMembers es = .ok r') :
    match Entries.find? key es with
    | some v => Shape.optional read v = .ok (get r')
    | none => get r' = get r := by
  induction es generalizing r with
  | nil =>
    cases hr
    rfl
  | cons e rest ih =>
    obtain ⟨k, v⟩ := e
    rw [List.map_cons, List.nodup_cons] at nodup
    obtain ⟨r₁, hone, hr₁⟩ := readMembers_cons_eq_ok_iff.1 hr
    have hstep := h hone
    have hrest := ih nodup.2 hr₁
    by_cases hk : k = key
    · rw [if_pos hk] at hstep
      rw [hk] at nodup
      rw [Entries.find?_eq_none_iff.2 nodup.1] at hrest
      simp only [Entries.find?, if_pos hk]
      rw [hstep, hrest]
    · rw [if_neg hk] at hstep
      simp only [Entries.find?, if_neg hk]
      rw [← hstep]
      exact hrest

/-- The attribute of a rule is what its reader makes of the member with its key. Without that member
it is left open, as it is in the rule that states nothing. -/
theorem Reads.of_ofJson (h : Reads get key read) {v : Json} {rule : Rule}
    (hr : ofJson v = .ok rule) :
    match v.member? key with
    | some w => Shape.optional read w = .ok (get rule)
    | none => get rule = get {} := by
  obtain ⟨members, hm, hread⟩ := ofJson_eq_ok_iff.1 hr
  have hmember : v.member? key = Entries.find? key members.entries := by
    rw [Json.member?, hm]
    rfl
  rw [hmember]
  exact h.of_readMembers members.nodup hread

theorem of_map_eq_ok {β : Type} {x : Except ShapeError α} {set : α → β} {b : β}
    (h : x.map set = .ok b) : ∃ a, x = .ok a ∧ set a = b := by
  cases x with
  | error e => cases h
  | ok a => exact ⟨a, rfl, Except.ok.inj h⟩

/-- **What one member leaves alone**: all attributes but the one whose key it has. -/
structure AgreeBut (key : String) (r r' : Rule) : Prop where
  kind : key ≠ "type" → r'.kind = r.kind
  required : key ≠ "required" → r'.required = r.required
  minLength : key ≠ "minLength" → r'.minLength = r.minLength
  maxLength : key ≠ "maxLength" → r'.maxLength = r.maxLength
  pattern : key ≠ "pattern" → r'.pattern = r.pattern
  allowedValues : key ≠ "allowedValues" → r'.allowedValues = r.allowedValues
  minValue : key ≠ "minValue" → r'.minValue = r.minValue
  maxValue : key ≠ "maxValue" → r'.maxValue = r.maxValue
  minDate : key ≠ "minDate" → r'.minDate = r.minDate
  customRule : key ≠ "customRule" → r'.customRule = r.customRule
  reference : key ≠ "$ref" → r'.reference = r.reference

theorem AgreeBut.withMessages (key : String) (r : Rule) (m : Messages) :
    AgreeBut key r (r.withMessages m) := by
  constructor <;> exact fun _ => rfl

/-- A member sets at most the attribute whose key it has. -/
theorem agreeBut_of_readMember {r r' : Rule} {k : String} {v : Json}
    (h : r.readMember k v = .ok r') : AgreeBut k r r' := by
  cases hkey : Messages.isKey k with
  | true =>
    rw [readMember_of_isKey r hkey v] at h
    obtain rfl := Except.ok.inj h
    exact AgreeBut.withMessages k r _
  | false =>
    unfold readMember at h
    split at h
    case h_12 =>
      split at h
      · rw [if_neg (Bool.eq_false_iff.1 hkey)] at h
        obtain rfl := Except.ok.inj h
        exact AgreeBut.withMessages k r r.messages
      · obtain rfl := Except.ok.inj h
        exact AgreeBut.withMessages k r r.messages
    all_goals
      obtain ⟨x, -, rfl⟩ := of_map_eq_ok h
      constructor <;> simp

/-- An attribute is one if the members with its key are taken up by its reader, and other members
leave it alone. -/
theorem Reads.of_set {set : Rule → Option α → Rule}
    (own : ∀ r v, r.readMember key v = (Shape.optional read v).map (set r))
    (get_set : ∀ r x, get (set r x) = x)
    (alone : ∀ {k r r'}, AgreeBut k r r' → k ≠ key → get r' = get r) : Reads get key read := by
  intro r r' k v h
  by_cases hk : k = key
  · rw [if_pos hk]
    rw [hk, own] at h
    obtain ⟨x, hx, rfl⟩ := of_map_eq_ok h
    rw [hx, get_set]
  · rw [if_neg hk]
    exact alone (agreeBut_of_readMember h) hk

theorem reads_reference : Reads reference "$ref" Shape.text :=
  Reads.of_set (fun _ _ => rfl) (fun _ _ => rfl) AgreeBut.reference

theorem reference_of_ofJson {v : Json} {rule : Rule} (h : ofJson v = .ok rule) :
    rule.reference = v.textMember? "$ref" := by
  have hread := reads_reference.of_ofJson h
  rw [Json.textMember?]
  cases hm : v.member? "$ref" with
  | none =>
    rw [hm] at hread
    exact hread
  | some w =>
    rw [hm] at hread
    cases w with
    | text s => exact (Except.ok.inj hread).symm
    | null => exact (Except.ok.inj hread).symm
    | _ => cases hread

end Rule

end FormCheck
