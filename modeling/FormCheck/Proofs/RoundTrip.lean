import FormCheck.Proofs.Grammar
import Mathlib.Data.List.Basic

/-!
# Rules written down and read again

`Rule.toJson` writes a rule as an object: a member for each attribute that it states, and then its
messages. What is written is read as the same rule, provided that the keys of the messages are keys of
messages. Rules as such need not have this property, but those have it that are read from documents,
and laying one over another keeps it.

This is a `FieldRule` that is serialized and deserialized again.

* `Messages.Keyed`: the property, with `Rule.Obtained.keyed` for the rules that can arise.
* `Rule.find?_writtenOf`, `Rule.mem_keys_written_iff`: what is written for the attributes of a rule.
* `Rule.spelledBy_toJson`: the object that is written spells the rule.
* **`Rule.Obtained.writes_and_reads_back`**: so it is read as the rule, and it holds neither a `null`
  nor a member for what is open.
-/

namespace FormCheck

/-! ## Keys of messages -/

namespace Messages

/-- Every key is one under which an object may hold a message. -/
def Keyed (m : Messages) : Prop := ∀ key ∈ m.keys, isKey key = true

theorem keyed_ofMembers (members : Dict Json) : (ofMembers members).Keyed := by
  intro key hkey
  rw [← Dict.contains_iff, Dict.contains, ofMembers_eq_filterMap, Dict.get?_filterMap,
    Option.isSome_iff_exists] at hkey
  obtain ⟨template, htemplate⟩ := hkey
  obtain ⟨v, -, hv⟩ := Option.bind_eq_some_iff.1 htemplate
  unfold ofMember? at hv
  split at hv
  · assumption
  · cases hv

theorem keyed_overlay {upper base : Messages} (hupper : upper.Keyed) (hbase : base.Keyed) :
    Keyed (upper.overlay base) := by
  intro key hkey
  rw [← Dict.contains_iff, Dict.contains, Dict.get?_overlay, Option.isSome_or,
    Bool.or_eq_true] at hkey
  rcases hkey with hkey | hkey
  · exact hupper key (Dict.contains_iff.1 hkey)
  · exact hbase key (Dict.contains_iff.1 hkey)

end Messages

namespace Rule

/-- **The rules that can arise**: read from a document, or one laid over another. -/
inductive Obtained : Rule → Prop
  | read {v : Json} {r : Rule} (h : ofJson v = .ok r) : Obtained r
  | overlay {own base : Rule} (hown : Obtained own) (hbase : Obtained base) :
      Obtained (own.overlay base)

/-- Rules that can arise keep their messages under keys of messages. -/
theorem Obtained.keyed {r : Rule} (h : Obtained r) : Messages.Keyed r.messages := by
  induction h with
  | read h =>
    obtain ⟨members, -, hmessages⟩ := messages_of_ofJson h
    rw [hmessages]
    exact Messages.keyed_ofMembers members
  | overlay _ _ hown hbase => exact Messages.keyed_overlay hown hbase

/-! ## Written attributes -/

variable (r : Rule)

/-- The members for some attributes, where they are stated. -/
def writtenOf (as : List Attribute) : List (String × Json) :=
  as.flatMap fun a => written a.key a.codec.write (a.get r)

theorem attributes_eq_writtenOf : r.attributes = r.writtenOf Attribute.all := by
  simp only [attributes, writtenOf, Attribute.all, List.flatMap_cons, List.flatMap_nil,
    List.append_nil, List.append_assoc]
  rfl

variable {r} {as : List Attribute} {a : Attribute}

/-- Written attributes have keys of attributes, in their order. -/
theorem keys_writtenOf_sublist (as : List Attribute) :
    ((r.writtenOf as).map Prod.fst).Sublist (as.map Attribute.key) := by
  induction as with
  | nil => exact List.Sublist.refl _
  | cons a rest ih =>
    unfold writtenOf at ih ⊢
    rw [List.flatMap_cons, List.map_append]
    cases a.get r with
    | none => exact ih.cons a.key
    | some x => exact ih.cons_cons a.key

/-- **An attribute is written exactly if it is stated**, and then as its codec writes it. -/
theorem find?_writtenOf (nodup : (as.map Attribute.key).Nodup) (ha : a ∈ as) :
    Entries.find? a.key (r.writtenOf as) = (a.get r).map a.codec.write := by
  induction as with
  | nil => exact absurd ha List.not_mem_nil
  | cons b rest ih =>
    rw [List.map_cons, List.nodup_cons] at nodup
    have hcons : r.writtenOf (b :: rest) =
        written b.key b.codec.write (b.get r) ++ r.writtenOf rest := List.flatMap_cons
    rw [hcons, Entries.find?_append]
    rcases List.mem_cons.1 ha with rfl | ha
    · have hrest : Entries.find? a.key (r.writtenOf rest) = none :=
        Entries.find?_eq_none_iff.2 fun hmem => nodup.1 ((keys_writtenOf_sublist rest).subset hmem)
      rw [hrest, Option.or_none]
      cases a.get r <;> simp [written, Entries.find?]
    · have hne : b.key ≠ a.key := fun hkey => nodup.1 (hkey ▸ List.mem_map_of_mem ha)
      have hb : Entries.find? a.key (written b.key b.codec.write (b.get r)) = none := by
        cases b.get r <;> simp [written, Entries.find?, hne]
      rw [hb, Option.none_or, ih nodup.2 ha]

theorem mem_writtenOf_iff {e : String × Json} :
    e ∈ r.writtenOf as ↔ ∃ a ∈ as, ∃ x, a.get r = some x ∧ e = (a.key, a.codec.write x) := by
  unfold writtenOf
  rw [List.mem_flatMap]
  refine exists_congr fun a => and_congr_right fun _ => ?_
  cases a.get r <;> simp [written]

/-! ## The written rule -/

variable (r)

/-- The members of a written rule. -/
def writtenMembers : List (String × Json) :=
  r.writtenOf Attribute.all ++ r.messages.entries.map fun e => (e.1, .text e.2)

theorem toJson_eq_object : r.toJson = .object r.writtenMembers := by
  rw [toJson, attributes_eq_writtenOf]
  rfl

theorem map_fst_writtenMembers :
    r.writtenMembers.map Prod.fst = (r.writtenOf Attribute.all).map Prod.fst ++ r.messages.keys := by
  rw [writtenMembers, List.map_append, List.map_map]
  rfl

variable {r}

/-- The keys of a written rule are those of the attributes that it states, and of its messages. -/
theorem mem_keys_written_iff {key : String} :
    key ∈ r.writtenMembers.map Prod.fst ↔
      (∃ a ∈ Attribute.all, a.key = key ∧ (a.get r).isSome) ∨ key ∈ r.messages.keys := by
  rw [map_fst_writtenMembers, List.mem_append]
  refine or_congr ?_ Iff.rfl
  constructor
  · intro h
    obtain ⟨e, he, rfl⟩ := List.mem_map.1 h
    obtain ⟨a, ha, x, hx, rfl⟩ := mem_writtenOf_iff.1 he
    exact ⟨a, ha, rfl, Option.isSome_iff_exists.2 ⟨x, hx⟩⟩
  · rintro ⟨a, ha, rfl, hsome⟩
    obtain ⟨x, hx⟩ := Option.isSome_iff_exists.1 hsome
    exact List.mem_map_of_mem (mem_writtenOf_iff.2 ⟨a, ha, x, hx, rfl⟩)

theorem ne_null_of_mem_written {e : String × Json} (h : e ∈ r.writtenMembers) : e.2 ≠ .null := by
  rcases List.mem_append.1 h with h | h
  · obtain ⟨a, -, x, -, rfl⟩ := mem_writtenOf_iff.1 h
    intro hnull
    have hspells := a.codec.spells_write x
    rw [show a.codec.write x = .null from hnull] at hspells
    exact a.codec.not_spells_null x hspells
  · obtain ⟨m, -, rfl⟩ := List.mem_map.1 h
    simp

section Keyed

variable (hkeyed : Messages.Keyed r.messages)
include hkeyed

/-- No key is written twice: messages have other keys than attributes. -/
theorem nodup_written : (r.writtenMembers.map Prod.fst).Nodup := by
  rw [map_fst_writtenMembers, List.nodup_append]
  refine ⟨(keys_writtenOf_sublist _).nodup Attribute.nodup_keys, r.messages.nodup, ?_⟩
  rintro k hk _ hmessage rfl
  obtain ⟨a, ha, rfl⟩ := List.mem_map.1 ((keys_writtenOf_sublist _).subset hk)
  have hno := Attribute.isKey_key ha
  rw [hkeyed _ hmessage] at hno
  cases hno

theorem members?_toJson : r.toJson.members? = some ⟨r.writtenMembers, nodup_written hkeyed⟩ := by
  rw [toJson_eq_object]
  exact congrArg some (Dict.ofList_entries ⟨r.writtenMembers, nodup_written hkeyed⟩)

theorem ofMembers_written :
    Messages.ofMembers ⟨r.writtenMembers, nodup_written hkeyed⟩ = r.messages := by
  apply Dict.ext_entries
  rw [Messages.ofMembers_eq_filterMap]
  show (r.writtenOf Attribute.all ++ _).filterMap _ = _
  rw [List.filterMap_append, List.filterMap_map]
  have hattributes : ∀ e ∈ r.writtenOf Attribute.all, Messages.ofMember? e.1 e.2 = none := by
    intro e he
    obtain ⟨a, ha, x, -, rfl⟩ := mem_writtenOf_iff.1 he
    exact if_neg (Bool.eq_false_iff.1 (Attribute.isKey_key ha))
  have hmessages : ∀ e ∈ r.messages.entries,
      Messages.ofMember? e.1 (.text e.2) = some e.2 :=
    fun e he => if_pos (hkeyed e.1 (List.mem_map_of_mem he))
  rw [List.filterMap_eq_nil_iff.2 fun e he => by rw [hattributes e he]; rfl, List.nil_append]
  refine (List.filterMap_congr fun e he => ?_).trans List.filterMap_some
  show (Messages.ofMember? e.1 (.text e.2)).map _ = _
  rw [hmessages e he]
  rfl

/-- **The object that is written spells the rule.** -/
theorem spelledBy_toJson : SpelledBy r ⟨r.writtenMembers, nodup_written hkeyed⟩ := by
  refine ⟨fun a ha => ?_, (ofMembers_written hkeyed).symm⟩
  have hmessage : Entries.find? a.key (r.messages.entries.map fun e => (e.1, Json.text e.2)) =
      none := by
    rw [Entries.find?_eq_none_iff, List.map_map]
    intro hmem
    have hno := Attribute.isKey_key ha
    rw [hkeyed _ hmem] at hno
    cases hno
  have hfind : Entries.find? a.key r.writtenMembers = (a.get r).map a.codec.write := by
    rw [writtenMembers, Entries.find?_append, hmessage, Option.or_none,
      find?_writtenOf Attribute.nodup_keys ha]
  show Stated a.codec.Spells (Entries.find? a.key r.writtenMembers) (a.get r)
  rw [hfind]
  cases a.get r with
  | none => exact .absent
  | some x => exact .value (a.codec.spells_write x)

end Keyed

/-- **A rule that can arise is read back as it was written**, with all its attributes, and its messages
in their order. What is written is an object without repeated keys. It holds no `null`, and it has
members for the attributes that the rule states and for its messages, and no others. -/
theorem Obtained.writes_and_reads_back {r : Rule} (h : Obtained r) :
    ofJson r.toJson = .ok r ∧
    ∃ members, r.toJson = .object members ∧ (members.map Prod.fst).Nodup ∧
      (∀ e ∈ members, e.2 ≠ .null) ∧
      ∀ key, key ∈ members.map Prod.fst ↔
        (∃ a ∈ Attribute.all, a.key = key ∧ (a.get r).isSome) ∨ key ∈ r.messages.keys := by
  have hkeyed := h.keyed
  refine ⟨?_, r.writtenMembers, r.toJson_eq_object, nodup_written hkeyed,
    fun e he => ne_null_of_mem_written he, fun key => mem_keys_written_iff⟩
  exact (ofJson_eq_ok_iff_spelledBy (members?_toJson hkeyed)).2 (spelledBy_toJson hkeyed)

end Rule

namespace Sample

/-- The rule of a fee: it has to be there, and the rest is said by a definition. -/
def fee : Json :=
  .object
    [("errorMessageRequired", .text "a fee, please"), ("required", .bool true),
      ("$ref", .text "#/definitions/charge")]

/-- The definition: a kind that is known by name only, two values, and a message that belongs to no
constraint. -/
def charge : Json :=
  .object
    [("type", .text "currency"), ("allowedValues", .array [.text "5", .text "10"]),
      ("errorMessageOdd", .text "odd"), ("pattern", .null)]

end Sample

open Sample in
/-- The rule of the fee, laid over its definition, is read back with the messages of both. -/
theorem writes_and_reads_back_fee :
    ∃ own base, Rule.ofJson fee = .ok own ∧ Rule.ofJson charge = .ok base ∧
      (own.overlay base).Obtained ∧
      Rule.ofJson (own.overlay base).toJson = .ok (own.overlay base) ∧
      (own.overlay base).allowedValues = some ["5", "10"] ∧
      (own.overlay base).messages.keys = ["errorMessageOdd", "errorMessageRequired"] := by
  have hobtained : ∀ {own base}, Rule.ofJson fee = .ok own → Rule.ofJson charge = .ok base →
      (own.overlay base).Obtained := fun hown hbase => .overlay (.read hown) (.read hbase)
  exact ⟨_, _, rfl, rfl, hobtained rfl rfl,
    (Rule.Obtained.writes_and_reads_back (hobtained rfl rfl)).1, rfl, rfl⟩

end FormCheck
