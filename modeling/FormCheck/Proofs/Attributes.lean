import FormCheck.Proofs.WrittenRules

/-!
# The attributes of a rule

A rule has eleven attributes, and six ways of writing their values. Both are listed here, so that
what holds of all attributes is said and proved once.

They are the fields of `FieldRule`, each with the name and the type by which it is deserialized and
serialized.

* `Content`: what a value consists of. `Content.Fits` are the values that are allowed, and
  `Content.Faults` is what is reported of any other.
* `Codec`: a reader of such values with its writer, and the laws that tie them to the content. There
  is one for each way of writing: `Codec.kind`, `Codec.text`, `Codec.truth`, `Codec.length`,
  `Codec.number`, `Codec.texts`.
* `Attribute`: an attribute with its key, its codec and its place in a rule. `Attribute.all` are the
  attributes; `Rule.ext_attributes` says that together with the messages they make up the rule.
* `Stated`: what an attribute is, by the member that states it.
-/

namespace FormCheck

/-! ## Contents -/

/-- What the value of an attribute consists of. -/
inductive Content where
  | text
  | truth
  | length
  | number
  | texts

namespace Content

/-- **The values that a content allows.** A length is a whole number below `2 ^ 64`; a number may
be whole or not. -/
def Fits : Content → Json → Prop
  | text, v => ∃ s, v = .text s
  | truth, v => ∃ b, v = .bool b
  | length, v => ∃ n : UInt64, v = .ofUInt64 n
  | number, v => (∃ n, v = .integer n) ∨ ∃ x, v = .double x
  | texts, v => ∃ ss : List String, v = .array (ss.map .text)

/-- **What is reported of a value that is not allowed.** A negative length is of the right sort and
out of range; of a list the first item that is no text is reported. -/
def Faults : Content → Json → ShapeError → Prop
  | text, v, e => (∀ s, v ≠ .text s) ∧ e = .wrongType v "a string"
  | truth, v, e => (∀ b, v ≠ .bool b) ∧ e = .wrongType v "a boolean"
  | length, v, e =>
    (∃ n, v = .integer n ∧ n.val < 0 ∧ e = .wrongValue v "usize") ∨
      (∀ n, v ≠ .integer n) ∧ e = .wrongType v "usize"
  | number, v, e => (∀ n, v ≠ .integer n) ∧ (∀ x, v ≠ .double x) ∧ e = .wrongType v "f64"
  | texts, v, e =>
    (∃ (before : List String) (w : Json) (after : List Json),
      v = .array (before.map .text ++ w :: after) ∧ (∀ s, w ≠ .text s) ∧
        e = .wrongType w "a string") ∨
      (∀ items, v ≠ .array items) ∧ e = .wrongType v "a sequence"

theorem not_fits_null (c : Content) : ¬ c.Fits .null := by
  cases c <;> simp [Fits, Json.ofUInt64]

end Content

/-! ## Codecs -/

/-- **A way of writing values.** The reader gives `x` for the values that spell `x`, among them the
one that the writer makes; the content says which values are read and what is reported of the
others. -/
structure Codec (α : Type) where
  content : Content
  read : Json → Except ShapeError α
  write : α → Json
  Spells : α → Json → Prop
  read_eq_ok_iff : ∀ v x, read v = .ok x ↔ Spells x v
  read_eq_error_iff : ∀ v e, read v = .error e ↔ content.Faults v e
  fits_iff : ∀ v, content.Fits v ↔ ∃ x, Spells x v
  spells_write : ∀ x, Spells x (write x)

namespace Codec

theorem ofUInt64_eq_integer_iff {n : UInt64} {i : Json.Integer} :
    Json.integer i = .ofUInt64 n ↔ 0 ≤ i.val ∧ UInt64.ofNat i.val.toNat = n := by
  obtain ⟨val, hle, hlt⟩ := i
  rw [Json.ofUInt64, Json.integer.injEq, Json.Integer.mk.injEq]
  constructor
  · rintro rfl
    exact ⟨Int.natCast_nonneg _, by rw [Int.toNat_natCast, UInt64.ofNat_toNat]⟩
  · rintro ⟨hnonneg, rfl⟩
    have hsmall : val.toNat < 2 ^ 64 := by omega
    rw [UInt64.toNat_ofNat_of_lt' hsmall]
    exact (Int.toNat_of_nonneg hnonneg).symm

/-- Texts. -/
def text : Codec String where
  content := .text
  read := Shape.text
  write := .text
  Spells s v := v = .text s
  read_eq_ok_iff v s := by cases v <;> simp [Shape.text]
  read_eq_error_iff v e := by cases v <;> simp [Shape.text, Content.Faults, eq_comm]
  fits_iff _ := Iff.rfl
  spells_write _ := rfl

/-- Kinds, which are written by name. -/
def kind : Codec Kind where
  content := .text
  read := Kind.ofJson
  write k := .text k.name
  Spells k v := v = .text k.name
  read_eq_ok_iff v k := by
    cases v with
    | text s =>
      show Except.ok (Kind.ofName s) = .ok k ↔ _
      rw [Except.ok.injEq, Json.text.injEq]
      constructor
      · rintro rfl
        exact (Kind.name_ofName s).symm
      · rintro rfl
        exact Kind.ofName_name k
    | _ => simp [Kind.ofJson, Shape.text, Except.map]
  read_eq_error_iff v e := by
    cases v <;> simp [Kind.ofJson, Shape.text, Except.map, Content.Faults, eq_comm]
  fits_iff v := by
    constructor
    · rintro ⟨s, rfl⟩
      exact ⟨Kind.ofName s, by rw [Kind.name_ofName]⟩
    · rintro ⟨k, rfl⟩
      exact ⟨k.name, rfl⟩
  spells_write _ := rfl

/-- Truth values. -/
def truth : Codec Bool where
  content := .truth
  read := Shape.bool
  write := .bool
  Spells b v := v = .bool b
  read_eq_ok_iff v b := by cases v <;> simp [Shape.bool]
  read_eq_error_iff v e := by cases v <;> simp [Shape.bool, Content.Faults, eq_comm]
  fits_iff _ := Iff.rfl
  spells_write _ := rfl

/-- Lengths. -/
def length : Codec UInt64 where
  content := .length
  read := Shape.length
  write := .ofUInt64
  Spells n v := v = .ofUInt64 n
  read_eq_ok_iff v n := by
    cases v with
    | integer i =>
      rw [ofUInt64_eq_integer_iff]
      by_cases hneg : i.val < 0
      · simp [Shape.length, hneg, Int.not_le.2 hneg]
      · simp [Shape.length, hneg, Int.not_lt.1 hneg]
    | _ => simp [Shape.length, Json.ofUInt64]
  read_eq_error_iff v e := by
    cases v with
    | integer i => by_cases hneg : i.val < 0 <;> simp [Shape.length, Content.Faults, hneg, eq_comm]
    | _ => simp [Shape.length, Content.Faults, eq_comm]
  fits_iff _ := Iff.rfl
  spells_write _ := rfl

/-- Numbers. A whole number stands for the double next to it. -/
def number : Codec Double where
  content := .number
  read := Shape.number
  write := .double
  Spells x v := v.number? = some x
  read_eq_ok_iff v x := by cases v <;> simp [Shape.number, Json.number?]
  read_eq_error_iff v e := by
    cases v <;> simp [Shape.number, Json.number?, Content.Faults, eq_comm]
  fits_iff v := by cases v <;> simp [Content.Fits, Json.number?]
  spells_write _ := rfl

theorem mapM_text_eq_ok_iff {items : List Json} {ss : List String} :
    items.mapM Shape.text = .ok ss ↔ items = ss.map .text := by
  induction items generalizing ss with
  | nil => cases ss <;> simp [pure, Except.pure]
  | cons v rest ih =>
    rw [List.mapM_cons]
    cases hv : Shape.text v with
    | error e =>
      have hno : ∀ s, v ≠ .text s := ((text.read_eq_error_iff v e).1 hv).1
      cases ss <;> simp [bind, Except.bind, hno]
    | ok s =>
      obtain rfl := (text.read_eq_ok_iff v s).1 hv
      cases hrest : rest.mapM Shape.text with
      | error e =>
        have hno : ∀ ss : List String, rest ≠ ss.map .text := by
          intro ss heq
          rw [ih.2 heq] at hrest
          cases hrest
        cases ss <;> simp [bind, Except.bind, hno]
      | ok ss' =>
        obtain rfl := ih.1 hrest
        cases ss with
        | nil => simp [bind, Except.bind, pure, Except.pure]
        | cons s' rest' =>
          have hinj : ss' = rest' ↔ ss'.map Json.text = rest'.map Json.text :=
            (List.map_inj_right fun _ _ h => Json.text.inj h).symm
          simp [bind, Except.bind, pure, Except.pure, hinj]

theorem mapM_text_eq_error_iff {items : List Json} {e : ShapeError} :
    items.mapM Shape.text = .error e ↔
      ∃ (before : List String) (w : Json) (after : List Json),
        items = before.map .text ++ w :: after ∧ (∀ s, w ≠ .text s) ∧
          e = .wrongType w "a string" := by
  induction items with
  | nil => simp [pure, Except.pure]
  | cons v rest ih =>
    rw [List.mapM_cons]
    cases hv : Shape.text v with
    | error e' =>
      obtain ⟨hno, rfl⟩ := (text.read_eq_error_iff v e').1 hv
      constructor
      · intro h
        obtain rfl := Except.error.inj h
        exact ⟨[], v, rest, rfl, hno, rfl⟩
      · rintro ⟨before, w, after, hsplit, -, rfl⟩
        cases before with
        | nil =>
          obtain ⟨rfl, -⟩ := List.cons.inj hsplit
          rfl
        | cons s before => exact absurd (List.cons.inj hsplit).1 (hno s)
    | ok s =>
      obtain rfl := (text.read_eq_ok_iff v s).1 hv
      have hmap : (do
          let s' ← (.ok s : Except ShapeError String)
          let ss ← rest.mapM Shape.text
          pure (s' :: ss)) = .error e ↔ rest.mapM Shape.text = .error e := by
        cases rest.mapM Shape.text <;> simp [bind, Except.bind, pure, Except.pure]
      rw [hmap, ih]
      constructor
      · rintro ⟨before, w, after, rfl, hw, he⟩
        exact ⟨s :: before, w, after, rfl, hw, he⟩
      · rintro ⟨before, w, after, hsplit, hw, he⟩
        cases before with
        | nil => exact absurd (List.cons.inj hsplit).1.symm (hw s)
        | cons s' before => exact ⟨before, w, after, (List.cons.inj hsplit).2, hw, he⟩

/-- Lists of texts. -/
def texts : Codec (List String) where
  content := .texts
  read := Shape.texts
  write ss := .array (List.map .text ss)
  Spells ss v := v = .array (List.map .text ss)
  read_eq_ok_iff v ss := by
    cases v with
    | array items =>
      rw [Json.array.injEq]
      exact mapM_text_eq_ok_iff
    | _ => simp [Shape.texts]
  read_eq_error_iff v e := by
    cases v with
    | array items =>
      have hitems := @mapM_text_eq_error_iff items e
      simp only [Content.Faults, Json.array.injEq]
      rw [Shape.texts, hitems]
      simp
    | _ => simp [Shape.texts, Content.Faults, eq_comm]
  fits_iff _ := Iff.rfl
  spells_write _ := rfl

variable {α : Type} (c : Codec α)

theorem fits_iff_not_faults (v : Json) : c.content.Fits v ↔ ∀ e, ¬ c.content.Faults v e := by
  rw [c.fits_iff]
  simp only [← c.read_eq_ok_iff, ← c.read_eq_error_iff]
  cases c.read v <;> simp

theorem not_spells_null (x : α) : ¬ c.Spells x .null :=
  fun h => c.content.not_fits_null ((c.fits_iff .null).2 ⟨x, h⟩)

/-- A value spells one thing at most. -/
theorem spells_unique {v : Json} {x y : α} (hx : c.Spells x v) (hy : c.Spells y v) : x = y := by
  have hread : c.read v = .ok x := (c.read_eq_ok_iff v x).2 hx
  rw [(c.read_eq_ok_iff v y).2 hy] at hread
  exact (Except.ok.inj hread).symm

end Codec

/-! ## Stated and open -/

/-- **What an attribute is, by its member**: open without the member and with `null`, and otherwise
what the member spells. -/
inductive Stated {α : Type} (Spells : α → Json → Prop) : Option Json → Option α → Prop
  | absent : Stated Spells none none
  | null : Stated Spells (some .null) none
  | value {x : α} {v : Json} (h : Spells x v) : Stated Spells (some v) (some x)

namespace Codec

variable {α : Type} (c : Codec α)

/-- A member states one thing at most: an attribute is open or has the value that is spelled. -/
theorem stated_unique {member? : Option Json} {x y : Option α} (hx : Stated c.Spells member? x)
    (hy : Stated c.Spells member? y) : x = y := by
  cases hx with
  | absent =>
    cases hy
    rfl
  | null =>
    cases hy with
    | null => rfl
    | value hv => exact absurd hv (c.not_spells_null _)
  | value hv =>
    cases hy with
    | null => exact absurd hv (c.not_spells_null _)
    | value hv' => rw [c.spells_unique hv hv']

/-- A member is read as what it states. -/
theorem optional_eq_ok_iff {v : Json} {x : Option α} :
    Shape.optional c.read v = .ok x ↔ Stated c.Spells (some v) x := by
  cases v with
  | null =>
    constructor
    · intro h
      obtain rfl := Except.ok.inj h
      exact .null
    · rintro (_ | _ | h)
      · rfl
      · exact absurd h (c.not_spells_null _)
  | _ =>
    constructor
    · intro h
      obtain ⟨a, ha, rfl⟩ := Rule.of_map_eq_ok h
      exact .value ((c.read_eq_ok_iff _ _).1 ha)
    · rintro (_ | _ | h)
      show (c.read _).map some = _
      rw [(c.read_eq_ok_iff _ _).2 h]
      rfl

theorem optional_eq_error_iff {v : Json} {e : ShapeError} :
    Shape.optional c.read v = .error e ↔ v ≠ .null ∧ c.content.Faults v e := by
  have map_eq_error : ∀ x : Except ShapeError α, x.map some = .error e ↔ x = .error e := by
    intro x
    cases x <;> simp [Except.map]
  cases v with
  | null => simp [Shape.optional]
  | _ =>
    rw [← c.read_eq_error_iff, and_iff_right (by simp)]
    exact map_eq_error _

end Codec

/-! ## Attributes -/

/-- **An attribute of rules**: its key, its codec and its place. Members with the key are read by the
codec into the place, and no other member changes what stands there. -/
structure Attribute where
  {α : Type}
  key : String
  codec : Codec α
  get : Rule → Option α
  set : Rule → Option α → Rule
  own : ∀ r v, r.readMember key v = (Shape.optional codec.read v).map (set r) := by
    exact fun _ _ => rfl
  get_set : ∀ r x, get (set r x) = x := by exact fun _ _ => rfl
  alone : ∀ {k r r'}, Rule.AgreeBut k r r' → k ≠ key → get r' = get r

namespace Attribute

open Rule (AgreeBut)

/-- The attributes of a rule. -/
def all : List Attribute :=
  [ { key := "type", codec := .kind, get := Rule.kind
      set := fun r x => { r with kind := x }, alone := AgreeBut.kind },
    { key := "required", codec := .truth, get := Rule.required
      set := fun r x => { r with required := x }, alone := AgreeBut.required },
    { key := "minLength", codec := .length, get := Rule.minLength
      set := fun r x => { r with minLength := x }, alone := AgreeBut.minLength },
    { key := "maxLength", codec := .length, get := Rule.maxLength
      set := fun r x => { r with maxLength := x }, alone := AgreeBut.maxLength },
    { key := "pattern", codec := .text, get := Rule.pattern
      set := fun r x => { r with pattern := x }, alone := AgreeBut.pattern },
    { key := "allowedValues", codec := .texts, get := Rule.allowedValues
      set := fun r x => { r with allowedValues := x }, alone := AgreeBut.allowedValues },
    { key := "minValue", codec := .number, get := Rule.minValue
      set := fun r x => { r with minValue := x }, alone := AgreeBut.minValue },
    { key := "maxValue", codec := .number, get := Rule.maxValue
      set := fun r x => { r with maxValue := x }, alone := AgreeBut.maxValue },
    { key := "minDate", codec := .text, get := Rule.minDate
      set := fun r x => { r with minDate := x }, alone := AgreeBut.minDate },
    { key := "customRule", codec := .text, get := Rule.customRule
      set := fun r x => { r with customRule := x }, alone := AgreeBut.customRule },
    { key := "$ref", codec := .text, get := Rule.reference
      set := fun r x => { r with reference := x }, alone := AgreeBut.reference } ]

theorem reads (a : Attribute) : Rule.Reads a.get a.key a.codec.read :=
  Rule.Reads.of_set a.own a.get_set a.alone

theorem get_empty {a : Attribute} (h : a ∈ all) : a.get {} = none := by
  simp only [all, List.mem_cons, List.not_mem_nil, or_false] at h
  rcases h with rfl | rfl | rfl | rfl | rfl | rfl | rfl | rfl | rfl | rfl | rfl <;> rfl

theorem isKey_key {a : Attribute} (h : a ∈ all) : Messages.isKey a.key = false := by
  have hall : ∀ k ∈ all.map key, Messages.isKey k = false := by decide +kernel
  exact hall a.key (List.mem_map_of_mem h)

theorem get_withMessages {a : Attribute} (h : a ∈ all) (r : Rule) (m : Messages) :
    a.get (r.withMessages m) = a.get r := by
  refine a.alone (AgreeBut.withMessages Messages.keyStart r m) fun hkey => ?_
  have hno := isKey_key h
  rw [← hkey] at hno
  exact absurd hno (by decide +kernel)

theorem nodup_keys : (all.map key).Nodup := by decide +kernel

end Attribute

/-- **A rule is its attributes and its messages.** -/
theorem Rule.ext_attributes {r r' : Rule} (h : ∀ a ∈ Attribute.all, a.get r = a.get r')
    (hm : r.messages = r'.messages) : r = r' := by
  obtain ⟨_, _, _, _, _, _, _, _, _, _, _, _⟩ := r
  obtain ⟨_, _, _, _, _, _, _, _, _, _, _, _⟩ := r'
  simp only [Attribute.all, List.forall_mem_cons] at h
  simp_all

end FormCheck
