import FormCheck.Proofs.OtherKinds

/-!
# Attributes of other kinds

Two pairs of documents that differ only in attributes which are inert on the fields that they reach
have the same form, as long as the values of these attributes have the right shape. The attributes
may stand on the rule of a field or on a definition, they may be changed, left out or put in, and
the documents need not spell a book at all.

The forms are those of `compile_json`.

* `Json.SameBesides`: two written rules that differ in inert attributes at most.
  `Rule.ofJson_of_sameBesides`: they are read as rules that differ in inert constraints, or not read
  for the same reason (`ReadAlike`). `Rule.readMembers_filter_eq_error_iff` is why the reason is the
  same, by induction on the members.
* `RuleBook.WrittenSameBesidesInert`: the documents. `RuleBook.ofJson_of_writtenSameBesidesInert`:
  they spell books that differ in inert constraints, or no book for the same reason.
* `Policy.constraint_of_rejected`, `Policy.mem_constraints_of_mem_shortfalls`: constraints of other
  kinds are neither enforced nor reported.
* **`Policy.inert_attributes`**: all of this for the forms.
-/

namespace FormCheck

/-! ## Readings -/

/-- Two readings fail for the same reason, or give results that are alike. -/
def ReadAlike {ε α : Type} (R : α → α → Prop) (x y : Except ε α) : Prop :=
  (∃ e, x = .error e ∧ y = .error e) ∨ ∃ a b, x = .ok a ∧ y = .ok b ∧ R a b

theorem ReadAlike.refl {ε α : Type} {R : α → α → Prop} (hrefl : ∀ a, R a a) (x : Except ε α) :
    ReadAlike R x x := by
  cases x with
  | error e => exact .inl ⟨e, rfl, rfl⟩
  | ok a => exact .inr ⟨a, a, rfl, rfl, hrefl a⟩

/-! ## Written rules -/

namespace Constraint

/-- The key is that of an attribute for none of the given constraints. -/
def stateNone (cs : List Constraint) (key : String) : Bool := !(cs.map code).contains key

theorem stateNone_eq_false_iff {cs : List Constraint} {key : String} :
    stateNone cs key = false ↔ ∃ c ∈ cs, c.code = key := by
  simp [stateNone]

theorem isKey_code (c : Constraint) : Messages.isKey c.code = false := by
  cases c <;> decide +kernel

end Constraint

namespace Rule

/-- The members of a written rule besides the attributes for some constraints. -/
def membersBesides (cs : List Constraint) (members : Dict Json) : List (String × Json) :=
  members.entries.filter fun m => Constraint.stateNone cs m.1

/-- What a written rule holds for some constraints is allowed. -/
def AllowedFor (cs : List Constraint) (members : Dict Json) : Prop :=
  ∀ c ∈ cs, ∀ w, members.get? c.code = some w → Allows c.code w

end Rule

/-- **Two written rules differ in inert attributes at most**: they are the same, or objects that
differ only in what they hold for some constraints which are inert. What they hold there is
allowed. -/
inductive Json.SameBesides (inert : Constraint → Prop) (v v' : Json) : Prop
  | same (h : v = v')
  | changed (cs : List Constraint) (members members' : Dict Json)
      (object : v.members? = some members) (object' : v'.members? = some members')
      (inert : ∀ c ∈ cs, inert c)
      (rest : Rule.membersBesides cs members = Rule.membersBesides cs members')
      (allowed : Rule.AllowedFor cs members) (allowed' : Rule.AllowedFor cs members')

namespace Rule

variable {inert : Constraint → Prop} {v v' : Json} {r r' : Rule} {cs : List Constraint}
  {members members' : Dict Json}

theorem allows_of_fits {key : String} {c : Content} (hc : (key, c) ∈ grammar) (hv : c.Fits v) :
    Allows key v := fun _ hc' => .inr (content_unique hc hc' ▸ hv)

theorem AllowedFor.allows (h : AllowedFor cs members) {m : String × Json} (hm : m ∈ members.entries)
    (hstated : Constraint.stateNone cs m.1 = false) : Allows m.1 m.2 := by
  obtain ⟨c, hc, hkey⟩ := Constraint.stateNone_eq_false_iff.1 hstated
  exact hkey ▸ h c hc m.2 (hkey ▸ Dict.get?_eq_some_iff.2 hm)

/-- Members that are allowed may be left out without a change in what is reported. -/
theorem readMembers_filter_eq_error_iff {kept : String → Bool} {es : List (String × Json)}
    {e : ShapeError} (h : ∀ m ∈ es, kept m.1 = false → Allows m.1 m.2) :
    r.readMembers (es.filter fun m => kept m.1) = .error e ↔ r'.readMembers es = .error e := by
  induction es generalizing r r' with
  | nil => simp [readMembers]
  | cons m rest ih =>
    obtain ⟨key, w⟩ := m
    have hrest := fun m hm => h m (List.mem_cons_of_mem _ hm)
    rw [List.filter_cons]
    cases hkept : kept key with
    | true =>
      rw [if_pos rfl, readMembers, readMembers]
      cases hr : r.readMember key w with
      | error e' => rw [readMember_eq_error_iff.2 (readMember_eq_error_iff.1 hr)]
      | ok r₁ =>
        obtain ⟨r₁', hr'⟩ := exists_readMember_iff (r := r').2 (exists_readMember_iff.1 ⟨r₁, hr⟩)
        rw [hr']
        exact ih hrest
    | false =>
      obtain ⟨r₁', hr'⟩ := exists_readMember_iff (r := r').2 (h _ List.mem_cons_self hkept)
      rw [if_neg Bool.false_ne_true, readMembers, hr']
      exact ih hrest

/-- What is reported of a rule is told by its other members, if its attributes for some constraints
are allowed. -/
theorem ofJson_eq_error_iff_membersBesides {e : ShapeError} (object : v.members? = some members)
    (allowed : AllowedFor cs members) :
    ofJson v = .error e ↔ readMembers {} (membersBesides cs members) = .error e := by
  rw [ofJson_of_members? object]
  exact (readMembers_filter_eq_error_iff fun m hm => allowed.allows hm).symm

theorem ofMembers_eq_pickEntries (cs : List Constraint) (members : Dict Json) :
    (Messages.ofMembers members).entries =
      Dict.pickEntries Messages.ofMember? (membersBesides cs members) := by
  rw [Messages.ofMembers_eq_filterMap]
  show Dict.pickEntries Messages.ofMember? members.entries = _
  unfold Dict.pickEntries membersBesides
  rw [List.filterMap_filter]
  congr 1
  funext m
  split
  next => rfl
  next hm =>
    obtain ⟨c, -, hc⟩ := Constraint.stateNone_eq_false_iff.1 (Bool.eq_false_iff.2 hm)
    rw [Messages.ofMember?, ← hc, Constraint.isKey_code]
    rfl

/-- Rules spelled by objects that differ in inert attributes differ in inert constraints. -/
theorem SameBesides.of_spelledBy (hr : SpelledBy r members) (hr' : SpelledBy r' members')
    (hinert : ∀ c ∈ cs, inert c) (rest : membersBesides cs members = membersBesides cs members') :
    SameBesides inert r r' := by
  refine .of_attributes (fun a ha hother => ?_) ?_
  · have hkept : Constraint.stateNone cs a.key = true := by
      rw [← Bool.not_eq_false, Constraint.stateNone_eq_false_iff]
      rintro ⟨c, hc, hkey⟩
      exact hother c (hinert c hc) hkey
    have hstated := hr.attributes a ha
    rw [Dict.get?_congr_of_filter rest hkept] at hstated
    exact a.codec.stated_unique hstated (hr'.attributes a ha)
  · rw [hr.messages, hr'.messages]
    exact Dict.ext_entries (by rw [ofMembers_eq_pickEntries cs, rest, ← ofMembers_eq_pickEntries])

/-- **Two written rules that differ in inert attributes** are no rules for the same reason, or rules
that differ in inert constraints. -/
theorem ofJson_of_sameBesides (h : v.SameBesides inert v') :
    ReadAlike (SameBesides inert) (ofJson v) (ofJson v') := by
  cases h with
  | same h =>
    subst h
    exact .refl (SameBesides.refl inert) (ofJson v)
  | changed cs members members' object object' hinert rest allowed allowed' =>
    have herror : ∀ e, ofJson v = .error e ↔ ofJson v' = .error e := by
      intro e
      rw [ofJson_eq_error_iff_membersBesides object allowed, rest,
        ← ofJson_eq_error_iff_membersBesides object' allowed']
    cases hv : ofJson v with
    | error e => exact .inl ⟨e, rfl, (herror e).1 hv⟩
    | ok r =>
      cases hv' : ofJson v' with
      | error e =>
        rw [(herror e).2 hv'] at hv
        cases hv
      | ok r' =>
        have hsame := SameBesides.of_spelledBy (spelledBy_of_ofJson object hv)
          (spelledBy_of_ofJson object' hv') hinert rest
        exact .inr ⟨r, r', rfl, rfl, hsame⟩

end Rule

/-- An inert attribute may be added to a written rule that leaves it open. -/
theorem Json.SameBesides.of_added {inert : Constraint → Prop} {v v' w : Json} {members : Dict Json}
    {c : Constraint} (object : v.members? = some (members.insert c.code w))
    (object' : v'.members? = some members) (hinert : inert c) (hnew : members.get? c.code = none)
    (hw : Rule.Allows c.code w) : v.SameBesides inert v' := by
  have hdropped : Constraint.stateNone [c] c.code = false :=
    Constraint.stateNone_eq_false_iff.2 ⟨c, List.mem_cons_self, rfl⟩
  refine .changed [c] _ _ object object' (fun d hd => ?_) ?_ (fun d hd w' hw' => ?_)
    fun d hd w' hw' => ?_
  · exact List.mem_singleton.1 hd ▸ hinert
  · rw [Rule.membersBesides,
      Dict.entries_insert_of_not_mem members w (Dict.get?_eq_none_iff.1 hnew), List.filter_append,
      List.filter_cons, if_neg (by rw [hdropped]; exact Bool.false_ne_true), List.filter_nil,
      List.append_nil, Rule.membersBesides]
  · obtain rfl := List.mem_singleton.1 hd
    rw [Dict.get?_insert_self] at hw'
    cases hw'
    exact hw
  · obtain rfl := List.mem_singleton.1 hd
    rw [hnew] at hw'
    cases hw'

/-! ## Written documents -/

/-- Two values are the same, or objects with members that are alike. -/
inductive Json.AlikeMembers (R : String → Json → Json → Prop) (v v' : Json) : Prop
  | same (h : v = v')
  | objects (members members' : Dict Json) (object : v.members? = some members)
      (object' : v'.members? = some members') (alike : members.Alike R members')

variable {R : String → Json → Json → Prop} {v v' : Json}

/-- Values with members that are alike are no objects and the same, or objects both. -/
theorem Json.AlikeMembers.members? (hrefl : ∀ key w, R key w w) (h : v.AlikeMembers R v') :
    (v.members? = none ∧ v = v') ∨ ∃ members members',
      v.members? = some members ∧ v'.members? = some members' ∧ members.Alike R members' := by
  cases h with
  | same h =>
    subst h
    cases v.members? with
    | none => exact .inl ⟨rfl, rfl⟩
    | some members => exact .inr ⟨members, members, rfl, rfl, .refl hrefl members⟩
  | objects members members' object object' alike =>
    exact .inr ⟨members, members', object, object', alike⟩

namespace RuleBook

/-- Two documents of definitions are the same, but for the definitions, which are alike. -/
def DefinitionsAlike (R : String → Json → Json → Prop) (v v' : Json) : Prop :=
  v.AlikeMembers (fun key inner inner' =>
    inner = inner' ∨ key = "definitions" ∧ inner.AlikeMembers R inner') v'

/-- **Two pairs of documents differ in inert attributes only.** -/
structure WrittenSameBesidesInert (rules definitions rules' definitions' : Json) : Prop where
  rulesAlike : rules.AlikeMembers
    (fun field => Json.SameBesides fun c =>
      ∀ b, ofJson rules definitions = .ok b → b.InertOnField field c) rules'
  definitionsAlike : DefinitionsAlike
    (fun name => Json.SameBesides fun c =>
      ∀ b, ofJson rules definitions = .ok b → b.InertOnDefinition name c) definitions definitions'

theorem definitionMembers_congr {document document' : Dict Json}
    (object : v.members? = some document) (object' : v'.members? = some document')
    (h : document.get? "definitions" = document'.get? "definitions") :
    definitionMembers v = definitionMembers v' := by
  obtain ⟨ms, rfl⟩ := Json.isObject_iff.2 ⟨document, object⟩
  obtain ⟨ms', rfl⟩ := Json.isObject_iff.2 ⟨document', object'⟩
  cases object
  cases object'
  rw [definitionMembers_object, definitionMembers_object, h]

theorem definitionMembers_of_inner {document members : Dict Json} {inner : Json}
    (object : v.members? = some document) (hinner : document.get? "definitions" = some inner)
    (hmembers : inner.members? = some members) : definitionMembers v = .ok members := by
  obtain ⟨ms, rfl⟩ := Json.isObject_iff.2 ⟨document, object⟩
  obtain ⟨inner, rfl⟩ := Json.isObject_iff.2 ⟨members, hmembers⟩
  cases object
  cases hmembers
  rw [definitionMembers_object, hinner]
  rfl

/-- Documents with definitions that are alike hold no definitions for the same reason, or definitions
that are alike. -/
theorem definitionMembers_of_alike (hrefl : ∀ key w, R key w w) (h : DefinitionsAlike R v v') :
    ReadAlike (Dict.Alike R) (definitionMembers v) (definitionMembers v') := by
  have hsame : definitionMembers v = definitionMembers v' →
      ReadAlike (Dict.Alike R) (definitionMembers v) (definitionMembers v') :=
    fun heq => heq ▸ .refl (.refl hrefl) _
  cases h with
  | same h => exact hsame (congrArg definitionMembers h)
  | objects document document' object object' alike =>
    rcases alike.none_or_some "definitions" with ⟨hd, hd'⟩ | ⟨inner, inner', hd, hd', hinner⟩
    · exact hsame (definitionMembers_congr object object' (hd.trans hd'.symm))
    · by_cases heq : inner = inner'
      · exact hsame (definitionMembers_congr object object' (by rw [hd, hd', heq]))
      · rcases (hinner.resolve_left heq).2.members? hrefl with
          ⟨-, heq'⟩ | ⟨members, members', hm, hm', hmembers⟩
        · exact absurd heq' heq
        · exact .inr ⟨members, members', definitionMembers_of_inner object hd hm,
            definitionMembers_of_inner object' hd' hm', hmembers⟩

variable {inert : String → Constraint → Prop} {members members' : Dict Json}

/-- Of written rules that differ in inert attributes the same are rules. -/
theorem wellFormed_alike
    (h : members.Alike (fun name => Json.SameBesides (inert name)) members') :
    Dict.Alike (fun name => Rule.SameBesides (inert name)) (wellFormed members)
      (wellFormed members') := by
  refine h.filterMap fun name v v' _ hsame => ?_
  rcases Rule.ofJson_of_sameBesides hsame with ⟨e, hv, hv'⟩ | ⟨r, r', hv, hv', hr⟩
  · rw [hv, hv']
    exact .none
  · rw [hv, hv']
    exact .some hr

/-- Of written rules that differ in inert attributes the same are set aside, for the same
reasons. -/
theorem illFormed_eq (h : members.Alike (fun name => Json.SameBesides (inert name)) members') :
    illFormed members = illFormed members' := by
  refine h.filterMap_eq fun name v v' _ hsame => ?_
  rcases Rule.ofJson_of_sameBesides hsame with ⟨e, hv, hv'⟩ | ⟨r, r', hv, hv', -⟩ <;> rw [hv, hv']

/-- **Documents that differ in inert attributes** spell no book for the same reason, or books that
differ in inert constraints. -/
theorem ofJson_of_writtenSameBesidesInert {rules definitions rules' definitions' : Json}
    (h : WrittenSameBesidesInert rules definitions rules' definitions') :
    ReadAlike SameBesidesInert (ofJson rules definitions) (ofJson rules' definitions') := by
  rcases h.rulesAlike.members? fun _ _ => .same rfl with
    ⟨hnone, heq⟩ | ⟨fields, fields', hf, hf', hfields⟩
  · left
    unfold ofJson
    rw [← heq, hnone]
    exact ⟨_, rfl, rfl⟩
  rcases definitionMembers_of_alike (fun _ _ => .same rfl) h.definitionsAlike with
    ⟨e, hd, hd'⟩ | ⟨members, members', hd, hd', hmembers⟩
  · left
    unfold ofJson
    rw [hf, hf', hd, hd']
    exact ⟨e, rfl, rfl⟩
  right
  have hb : ofJson rules definitions = .ok (ofMembers fields members) :=
    ofJson_eq_ok_iff.2 ⟨fields, members, hf, hd, rfl⟩
  have hb' : ofJson rules' definitions' = .ok (ofMembers fields' members') :=
    ofJson_eq_ok_iff.2 ⟨fields', members', hf', hd', rfl⟩
  simp only [hb, Except.ok.injEq, forall_eq'] at hfields hmembers
  exact ⟨_, _, hb, hb',
    { fields := wellFormed_alike hfields
      definitions := wellFormed_alike hmembers
      malformedFields := illFormed_eq hfields
      malformedDefinitions := illFormed_eq hmembers }⟩

end RuleBook

/-! ## What is neither enforced nor reported -/

/-- The constraint that is set and not checked. -/
def Shortfall.constraint? : Shortfall → Option Constraint
  | invalidPattern _ => some .pattern
  | invalidMinDate _ => some .minDate
  | unknownCustomRule _ => some .customRule
  | unsupportedKind _ | unknownMessageKey _ => none

theorem Shortfall.losesConstraint_eq (part : Shortfall) :
    part.losesConstraint = part.constraint?.isSome := by
  cases part <;> rfl

namespace Policy

variable {p : Policy} {r : Requirement} {v : Json} {c : Constraint}

theorem mem_constraints_of_breaks {x : Reading} (hx : p.reading? r.kind v = some x)
    (h : p.Breaks r x c) : c ∈ r.kind.constraints := by
  cases hkind : r.kind with
  | text =>
    rw [hkind] at hx
    cases v with
    | text s =>
      cases hx
      cases c <;> first | decide | exact absurd h id
    | _ => cases hx
  | number =>
    rw [reading?_number hkind] at hx
    obtain ⟨n, -, rfl⟩ := Option.map_eq_some_iff.1 hx
    cases c <;> first | decide | exact absurd h id
  | date =>
    rw [reading?_date hkind] at hx
    obtain ⟨d, -, rfl⟩ := Option.map_eq_some_iff.1 hx
    cases c <;> first | decide | exact absurd h id
  | boolean =>
    rw [hkind] at hx
    cases hx
  | other name unknown =>
    rw [hkind] at hx
    cases hx

/-- **No constraint of another kind is enforced**: a value is rejected because it is missing, because
it is not of the kind, or for a constraint of the kind. -/
theorem constraint_of_rejected {field : String} {f : Failure}
    (h : (p.checker field r).verdict v = .rejected f) :
    f.constraint = .required ∨ f.constraint = .kind ∨ f.constraint ∈ r.kind.constraints := by
  have hviolated := violated?_of_rejected h
  by_cases hrequired : f.constraint = .required
  · exact .inl hrequired
  by_cases hkind : f.constraint = .kind
  · exact .inr (.inl hkind)
  obtain ⟨-, -, x, hx, hbroken⟩ := breaks_of_violated? hviolated hrequired hkind
  exact .inr (.inr (mem_constraints_of_breaks hx hbroken))

/-- **No constraint of another kind is reported.** -/
theorem mem_constraints_of_mem_shortfalls {part : Shortfall} (h : part ∈ p.shortfalls r)
    (hc : part.constraint? = some c) : c ∈ r.kind.constraints := by
  rw [shortfalls_eq_due, due, List.mem_append] at h
  rcases h with hlost | hbesides
  · unfold lost at hlost
    split at hlost
    next hkind =>
      obtain ⟨source, -, rfl⟩ := List.mem_map.1 hlost
      cases hc
      rw [hkind]
      decide
    next hkind =>
      rw [hkind]
      rcases List.mem_append.1 hlost with hmin | hrule
      · obtain ⟨written, -, rfl⟩ := List.mem_map.1 hmin
        cases hc
        decide
      · obtain ⟨name, -, rfl⟩ := List.mem_map.1 hrule
        cases hc
        decide
    all_goals cases hlost
  · have hnone := losesConstraint_of_mem_besides r hbesides
    rw [Shortfall.losesConstraint_eq, hc] at hnone
    cases hnone

variable {b : RuleBook} {field : String}

theorem require_of_get?_form {checker : Checker} (h : (p.form b).get? field = some checker) :
    ∃ rule r, b.fields.get? field = some rule ∧ b.require field rule = .ok r ∧
      checker = p.checker field r := by
  rw [get?_form] at h
  obtain ⟨rule, hrule, h⟩ := Option.bind_eq_some_iff.1 h
  cases hr : b.require field rule with
  | error cause =>
    rw [hr] at h
    cases h
  | ok r =>
    rw [hr] at h
    exact ⟨rule, r, hrule, hr, (Option.some.inj h).symm⟩

theorem mem_shortfalls_of_mem_remarks {part : Shortfall}
    (h : .shortfall field part ∈ (p.form b).remarks) :
    ∃ rule r, b.fields.get? field = some rule ∧ b.require field rule = .ok r ∧
      part ∈ p.shortfalls r := by
  rcases List.mem_append.1 h with h | h
  · obtain ⟨e, -, he⟩ := List.mem_map.1 h
    cases he
  obtain ⟨⟨name, rule⟩, hmem, h⟩ := List.mem_flatMap.1 h
  simp only [remarksOn] at h
  split at h
  next r hr =>
    obtain ⟨part', hpart, heq⟩ := List.mem_map.1 h
    cases heq
    exact ⟨rule, r, Dict.get?_eq_some_iff.2 hmem, hr, hpart⟩
  next cause hr => cases List.mem_singleton.1 h

/-- **Attributes of other kinds are inert.** Two books that differ only in constraints which are
inert on the fields that they reach have the same form, and so have two pairs of documents that
differ only in such attributes, whatever is allowed there. What a field rejects is missing, is not
of its kind, or breaks a constraint of its kind, and the constraints on which the form remarks are of
the kind, too. -/
theorem inert_attributes (p : Policy) :
    (∀ b b' : RuleBook, b.SameBesidesInert b' → p.form b = p.form b') ∧
    (∀ rules definitions rules' definitions',
      RuleBook.WrittenSameBesidesInert rules definitions rules' definitions' →
      p.formOfJson rules definitions = p.formOfJson rules' definitions') ∧
    ∀ (b : RuleBook) field checker, (p.form b).get? field = some checker →
      (∀ v f, checker.verdict v = .rejected f →
        f.constraint = .required ∨ f.constraint = .kind ∨
          f.constraint ∈ checker.kind.constraints) ∧
      ∀ part c, .shortfall field part ∈ (p.form b).remarks → part.constraint? = some c →
        c ∈ checker.kind.constraints := by
  refine ⟨fun b b' h => p.form_congr h, fun rules definitions rules' definitions' h => ?_,
    fun b field checker hchecker => ⟨fun v f hf => ?_, fun part c hpart hc => ?_⟩⟩
  · unfold formOfJson
    rcases RuleBook.ofJson_of_writtenSameBesidesInert h with ⟨e, hb, hb'⟩ | ⟨b, b', hb, hb', hsame⟩
    · rw [hb, hb']
    · rw [hb, hb']
      exact congrArg Except.ok (p.form_congr hsame)
  · obtain ⟨rule, r, -, -, rfl⟩ := require_of_get?_form hchecker
    exact constraint_of_rejected hf
  · obtain ⟨rule, r, hrule, hr, rfl⟩ := require_of_get?_form hchecker
    obtain ⟨rule', r', hrule', hr', hmem⟩ := mem_shortfalls_of_mem_remarks hpart
    rw [hrule] at hrule'
    cases hrule'
    rw [hr] at hr'
    cases hr'
    exact mem_constraints_of_mem_shortfalls hmem hc

end Policy

namespace Sample

/-- A price with a pattern, and a memo with a rule for dates that does not exist. -/
def priced : Json :=
  .object
    [("price", .object [("$ref", .text "#/definitions/money"), ("pattern", .text "(")]),
      ("memo", .object [("type", .text "string"), ("customRule", .text "fullMoon")])]

/-- A price and a memo without such attributes. -/
def pricedPlainly : Json :=
  .object
    [("price", .object [("$ref", .text "#/definitions/money")]),
      ("memo", .object [("type", .text "string")])]

/-- Money is a number; the attributes are added to it. -/
def moneyWith (attributes : List (String × Json)) : Json :=
  .object [("definitions", .object [("money", .object (("type", .text "number") :: attributes))])]

/-- The pattern, the rule for dates and the shortest length are inert where they stand. -/
theorem writtenSameBesidesInert_priced :
    RuleBook.WrittenSameBesidesInert priced (moneyWith [("minLength", .ofUInt64 3)])
      pricedPlainly (moneyWith []) := by
  have hprice : ∀ b, RuleBook.ofJson priced (moneyWith [("minLength", .ofUInt64 3)]) = .ok b →
      ∀ c, c.OfKinds → c ∉ Kind.number.constraints → b.InertOnField "price" c := by
    intro b hb c hc hother
    cases hb
    exact ⟨hc, fun k hk => Option.some.inj hk ▸ hother⟩
  have hmemo : ∀ b, RuleBook.ofJson priced (moneyWith [("minLength", .ofUInt64 3)]) = .ok b →
      ∀ c, c.OfKinds → c ∉ Kind.text.constraints → b.InertOnField "memo" c := by
    intro b hb c hc hother
    cases hb
    exact ⟨hc, fun k hk => Option.some.inj hk ▸ hother⟩
  constructor
  · refine .objects _ _ rfl rfl (((Dict.Alike.refl ?_ .empty).insert ?_).insert ?_)
    · exact fun _ _ => .same rfl
    · exact .of_added (c := .pattern) (w := .text "(") rfl rfl
        (fun b hb => hprice b hb _ ⟨.text, by decide⟩ (by decide)) rfl
        (Rule.allows_of_fits (c := .text) (by simp [Rule.grammar, Constraint.code]) ⟨_, rfl⟩)
    · exact .of_added (c := .customRule) (w := .text "fullMoon") rfl rfl
        (fun b hb => hmemo b hb _ ⟨.date, by decide⟩ (by decide)) rfl
        (Rule.allows_of_fits (c := .text) (by simp [Rule.grammar, Constraint.code]) ⟨_, rfl⟩)
  · refine .objects _ _ rfl rfl ((Dict.Alike.refl ?_ .empty).insert (.inr ⟨rfl, ?_⟩))
    · exact fun _ _ => .inl rfl
    refine .objects _ _ rfl rfl ((Dict.Alike.refl ?_ .empty).insert ?_)
    · exact fun _ _ => .same rfl
    refine .of_added (c := .minLength) (w := .ofUInt64 3) rfl rfl
      (fun b hb => ⟨⟨.text, by decide⟩, fun field rule hrule hnames => ?_⟩) rfl
      (Rule.allows_of_fits (c := .length) (by simp [Rule.grammar, Constraint.code]) ⟨_, rfl⟩)
    -- of the two fields only the price refers to money
    have hfield : field = "price" := by
      cases hb
      rcases List.mem_cons.1 (Dict.get?_eq_some_iff.1 hrule) with heq | hmem
      · exact (Prod.mk.inj heq).1
      · obtain ⟨-, rfl⟩ := Prod.mk.inj (List.mem_singleton.1 hmem)
        cases hnames.2
    exact hfield ▸ hprice b hb _ ⟨.text, by decide⟩ (by decide)

end Sample

open Sample in
/-- With the inert attributes and without them the price is a number and nothing else, and there is
nothing to remark on. -/
theorem inert_attributes_priced :
    ∃ b b' checker, RuleBook.ofJson priced (moneyWith [("minLength", .ofUInt64 3)]) = .ok b ∧
      RuleBook.ofJson pricedPlainly (moneyWith []) = .ok b' ∧ b.SameBesidesInert b' ∧
      policy.form b = policy.form b' ∧
      policy.formOfJson priced (moneyWith [("minLength", .ofUInt64 3)]) =
        policy.formOfJson pricedPlainly (moneyWith []) ∧
      (policy.form b).remarks = [] ∧ (policy.form b).get? "price" = some checker ∧
      checker.verdict (.ofUInt64 2) = .accepted ∧
      ∃ f, checker.verdict (.text "(") = .rejected f ∧
        (f.constraint = .required ∨ f.constraint = .kind ∨
          f.constraint ∈ checker.kind.constraints) := by
  obtain ⟨hbooks, hdocuments, hkinds⟩ := Policy.inert_attributes policy
  have hwritten := writtenSameBesidesInert_priced
  rcases RuleBook.ofJson_of_writtenSameBesidesInert hwritten with
    ⟨e, he, -⟩ | ⟨b, b', hb, hb', hsame⟩
  · cases he
  have hremarks : (policy.form b).remarks = [] := by
    cases hb
    rfl
  have hprice : ∃ checker, (policy.form b).get? "price" = some checker ∧
      checker.verdict (.ofUInt64 2) = .accepted ∧
      ∃ f, checker.verdict (.text "(") = .rejected f := by
    cases hb
    exact ⟨_, rfl, rfl, _, rfl⟩
  obtain ⟨checker, hchecker, haccepted, f, hf⟩ := hprice
  exact ⟨b, b', checker, hb, hb', hsame, hbooks b b' hsame, hdocuments _ _ _ _ hwritten, hremarks,
    hchecker, haccepted, f, hf, (hkinds b "price" checker hchecker).1 _ f hf⟩

end FormCheck
