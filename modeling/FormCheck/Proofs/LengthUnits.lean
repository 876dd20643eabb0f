import FormCheck.Proofs.Acceptance
import FormCheck.Proofs.Bytes
import FormCheck.Proofs.Documents

/-!
# Lengths in characters and in bytes

A policy counts the lengths of texts in characters or in bytes (`Policy.countingIn`). Here the two
policies judge the same values by the same requirement. A text has at least as many bytes as
characters, so what is too long in characters is too long in bytes, and what is too short in bytes is
too short in characters. The bounds on the length are the first constraints of a text, and the shortest
length comes before the longest one, so the unit cannot bring another constraint in front of these
failures.

`Policy.countingIn` is the compiler whose configuration has another `length_mode`.

* `LengthUnit.chars_le_bytes`, `LengthUnit.bytes_le_four_mul_chars`, `LengthUnit.chars_eq_bytes_iff`:
  how the units are related.
* `Policy.breaks_countingIn_iff`, `Policy.breaks_countingIn_of_isAscii`: the unit plays a part for the
  two bounds on the length only, and for no text of ASCII characters.
* **`Policy.lengths_in_both_units`**: how the verdicts of the two policies are related.
-/

namespace FormCheck

namespace Policy

/-- The policy that counts lengths in the given unit. -/
def countingIn (p : Policy) (unit : LengthUnit) : Policy :=
  { p with settings := { p.settings with lengthMode := unit } }

/-- The checks of a value see a text: the value is a present text, taken without the blanks at its
ends if the settings say so. -/
def Sees (p : Policy) (r : Requirement) (v : Json) (s : String) : Prop :=
  ¬ r.kind.Absent v ∧ p.reading? r.kind v = some (.text s)

variable {p : Policy} {r : Requirement} {unit unit' : LengthUnit} {v : Json} {x : Reading}
  {c : Constraint}

/-! ## What the unit decides -/

theorem reading?_countingIn (p : Policy) (unit : LengthUnit) (k : Kind) (v : Json) :
    (p.countingIn unit).reading? k v = p.reading? k v := rfl

/-- Besides the bounds on the length no constraint depends on the unit. -/
theorem breaks_countingIn_iff (hmin : c ≠ .minLength) (hmax : c ≠ .maxLength) :
    (p.countingIn unit).Breaks r x c ↔ (p.countingIn unit').Breaks r x c := by
  cases c with
  | minLength => exact absurd rfl hmin
  | maxLength => exact absurd rfl hmax
  | _ => cases x <;> exact Iff.rfl

/-- A text of ASCII characters breaks the same constraints in both units. -/
theorem breaks_countingIn_of_isAscii {s : String} (h : Text.IsAscii s) :
    (p.countingIn .chars).Breaks r (.text s) c ↔ (p.countingIn .bytes).Breaks r (.text s) c := by
  have hmeasure := (LengthUnit.chars_eq_bytes_iff s).2 h
  cases c with
  | minLength =>
    show (∃ min ∈ r.minLength, LengthUnit.chars.measure s < min.toNat) ↔ _
    rw [hmeasure]
    exact Iff.rfl
  | maxLength =>
    show (∃ max ∈ r.maxLength, max.toNat < LengthUnit.chars.measure s) ↔ _
    rw [hmeasure]
    exact Iff.rfl
  | _ => exact Iff.rfl

theorem breaks_minLength_of_bytes (h : (p.countingIn .bytes).Breaks r x .minLength) :
    (p.countingIn .chars).Breaks r x .minLength := by
  cases x with
  | text s =>
    obtain ⟨min, hmin, hshort⟩ := h
    exact ⟨min, hmin, Nat.lt_of_le_of_lt (LengthUnit.chars_le_bytes s) hshort⟩
  | number x => exact absurd h id
  | date d => exact absurd h id

theorem breaks_maxLength_of_chars (h : (p.countingIn .chars).Breaks r x .maxLength) :
    (p.countingIn .bytes).Breaks r x .maxLength := by
  cases x with
  | text s =>
    obtain ⟨max, hmax, hlong⟩ := h
    exact ⟨max, hmax, Nat.lt_of_lt_of_le hlong (LengthUnit.chars_le_bytes s)⟩
  | number x => exact absurd h id
  | date d => exact absurd h id

/-! ## The violated constraint -/

/-- A violated constraint is violated in the other unit as well, if it is broken there and no
constraint before it becomes broken. -/
theorem violated?_countingIn_of_breaks {before after : List Constraint}
    (hrequired : c ≠ .required) (hkind : c ≠ .kind) (hall : Constraint.all = before ++ c :: after)
    (hown : ∀ x, (p.countingIn unit).Breaks r x c → (p.countingIn unit').Breaks r x c)
    (hbefore : ∀ x, ∀ d ∈ before,
      (p.countingIn unit').Breaks r x d → (p.countingIn unit).Breaks r x d)
    (h : (p.countingIn unit).violated? r v = some c) :
    (p.countingIn unit').violated? r v = some c := by
  obtain ⟨hchecks, hpresent, x, hx, -⟩ := breaks_of_violated? h hrequired hkind
  have hx' : (p.countingIn unit').reading? r.kind v = some x := hx
  obtain ⟨hbroken, hnone⟩ := (violated?_eq_some_iff hchecks hpresent hx hall).1 h
  exact (violated?_eq_some_iff hchecks hpresent hx' hall).2
    ⟨hown x hbroken, fun d hd hbreaks => hnone d hd (hbefore x d hd hbreaks)⟩

/-- A text that is too short in bytes is told to be too short in characters. -/
theorem violated?_minLength_of_bytes (h : (p.countingIn .bytes).violated? r v = some .minLength) :
    (p.countingIn .chars).violated? r v = some .minLength := by
  have hall : Constraint.all = [.required, .kind] ++ .minLength :: Constraint.all.drop 3 := rfl
  refine violated?_countingIn_of_breaks nofun nofun hall
    (fun x => breaks_minLength_of_bytes) (fun x d hd => ?_) h
  refine (breaks_countingIn_iff ?_ ?_).1 <;> rintro rfl <;> exact absurd hd (by decide)

/-- A text that is too long in characters is told to be too long in bytes: it is long enough in
characters, and so it is in bytes. -/
theorem violated?_maxLength_of_chars (h : (p.countingIn .chars).violated? r v = some .maxLength) :
    (p.countingIn .bytes).violated? r v = some .maxLength := by
  have hall : Constraint.all =
      [.required, .kind, .minLength] ++ .maxLength :: Constraint.all.drop 4 := rfl
  refine violated?_countingIn_of_breaks nofun nofun hall
    (fun x => breaks_maxLength_of_chars) (fun x d hd => ?_) h
  by_cases hmin : d = .minLength
  · rw [hmin]
    exact breaks_minLength_of_bytes
  · refine (breaks_countingIn_iff hmin ?_).1
    rintro rfl
    exact absurd hd (by decide)

/-- A value whose checks see ASCII characters only violates the same constraint in both units. -/
theorem violated?_countingIn_of_isAscii (h : ∀ s, p.Sees r v s → Text.IsAscii s) :
    (p.countingIn .chars).violated? r v = (p.countingIn .bytes).violated? r v := by
  unfold violated?
  rw [reading?_countingIn, reading?_countingIn]
  by_cases hpresent : r.kind.Absent v
  · rw [if_pos hpresent, if_pos hpresent]
  rw [if_neg hpresent, if_neg hpresent]
  cases hx : p.reading? r.kind v with
  | none => rfl
  | some x =>
    have hbreaks : ∀ c, (p.countingIn .chars).Breaks r x c ↔ (p.countingIn .bytes).Breaks r x c := by
      intro c
      cases x with
      | text s => exact breaks_countingIn_of_isAscii (h s ⟨hpresent, hx⟩)
      | number x => cases c <;> exact Iff.rfl
      | date d => cases c <;> exact Iff.rfl
    simp only [hbreaks]

/-! ## The verdict -/

/-- The same violated constraint is told by the same failure in both units. -/
theorem verdict_countingIn_congr (field : String)
    (h : (p.countingIn unit).violated? r v = (p.countingIn unit').violated? r v) :
    ((p.countingIn unit).checker field r).verdict v =
      ((p.countingIn unit').checker field r).verdict v := by
  refine Verdict.ext_failure? ?_
  rw [(verdict_eq_violated? _ r field v).1, (verdict_eq_violated? _ r field v).1, h]
  rfl

/-- A failure in one unit is the failure in the other one, if the constraint is violated there. -/
theorem verdict_countingIn_of_rejected {field : String} {f : Failure}
    (himp : (p.countingIn unit).violated? r v = some c →
      (p.countingIn unit').violated? r v = some c)
    (h : ((p.countingIn unit).checker field r).verdict v = .rejected f) (hc : f.constraint = c) :
    ((p.countingIn unit').checker field r).verdict v = .rejected f := by
  have hviolated := violated?_of_rejected h
  rw [hc] at hviolated
  rw [← h]
  exact verdict_countingIn_congr field ((himp hviolated).trans hviolated.symm)

/-- **Lengths in characters and in bytes.** A text has at least as many bytes as characters, and just
as many exactly if all are characters of ASCII; it has at most four times as many. Of two policies that
differ in the unit of length only, both answer the same for a value whose checks see ASCII characters
only; what is rejected as too long in characters is rejected in bytes, and what is rejected as too
short in bytes is rejected in characters, with the same failure each time. -/
theorem lengths_in_both_units (p : Policy) (r : Requirement) (field : String) :
    (∀ s, LengthUnit.chars.measure s ≤ LengthUnit.bytes.measure s ∧
      LengthUnit.bytes.measure s ≤ 4 * LengthUnit.chars.measure s ∧
      (LengthUnit.chars.measure s = LengthUnit.bytes.measure s ↔ Text.IsAscii s)) ∧
    (∀ v, (∀ s, p.Sees r v s → Text.IsAscii s) →
      ((p.countingIn .chars).checker field r).verdict v =
        ((p.countingIn .bytes).checker field r).verdict v) ∧
    (∀ v f, ((p.countingIn .chars).checker field r).verdict v = .rejected f →
      f.constraint = .maxLength →
      ((p.countingIn .bytes).checker field r).verdict v = .rejected f) ∧
    ∀ v f, ((p.countingIn .bytes).checker field r).verdict v = .rejected f →
      f.constraint = .minLength →
      ((p.countingIn .chars).checker field r).verdict v = .rejected f := by
  refine ⟨fun s => ?_, fun v h => ?_, fun v f h hc => ?_, fun v f h hc => ?_⟩
  · exact ⟨LengthUnit.chars_le_bytes s, LengthUnit.bytes_le_four_mul_chars s,
      LengthUnit.chars_eq_bytes_iff s⟩
  · exact verdict_countingIn_congr field (violated?_countingIn_of_isAscii h)
  · exact verdict_countingIn_of_rejected violated?_maxLength_of_chars h hc
  · exact verdict_countingIn_of_rejected violated?_minLength_of_bytes h hc

end Policy

namespace Sample

/-- A nickname of three or four letters. -/
def nickname : Requirement where
  kind := .text
  minLength := some 3
  maxLength := some 4

end Sample

open Sample in
/-- Five letters are too many in both units, and two bytes are too few in both. Four letters of more
than four bytes are too many in bytes only. -/
theorem lengths_in_both_units_nickname :
    (∀ s, policy.Sees nickname (.text " Zoe ") s → Text.IsAscii s) ∧
    ((policy.countingIn .chars).checker "nick" nickname).verdict (.text " Zoe ") =
      ((policy.countingIn .bytes).checker "nick" nickname).verdict (.text " Zoe ") ∧
    ((policy.countingIn .chars).checker "nick" nickname).verdict (.text "Chloé") =
      .rejected ((Failure.maxLength 4).withField "nick") ∧
    ((policy.countingIn .bytes).checker "nick" nickname).verdict (.text "Chloé") =
      .rejected ((Failure.maxLength 4).withField "nick") ∧
    ((policy.countingIn .bytes).checker "nick" nickname).verdict (.text "é") =
      .rejected ((Failure.minLength 3).withField "nick") ∧
    ((policy.countingIn .chars).checker "nick" nickname).verdict (.text "é") =
      .rejected ((Failure.minLength 3).withField "nick") ∧
    ((policy.countingIn .chars).checker "nick" nickname).verdict (.text "Zoé") = .accepted ∧
    LengthUnit.chars.measure "Zoéé" = 4 ∧ LengthUnit.bytes.measure "Zoéé" = 6 ∧
    ((policy.countingIn .chars).checker "nick" nickname).verdict (.text "Zoéé") = .accepted ∧
    ((policy.countingIn .bytes).checker "nick" nickname).verdict (.text "Zoéé") ≠ .accepted := by
  obtain ⟨-, hsame, hlong, hshort⟩ := Policy.lengths_in_both_units policy nickname "nick"
  have hascii : ∀ s, policy.Sees nickname (.text " Zoe ") s → Text.IsAscii s := by
    rintro s ⟨-, hs⟩
    have hzoe : policy.reading? .text (.text " Zoe ") = some (.text (Text.trim " Zoe ")) := rfl
    rw [show nickname.kind = .text from rfl, hzoe] at hs
    obtain rfl := Reading.text.inj (Option.some.inj hs)
    decide +kernel
  have hchloe : ((policy.countingIn .chars).checker "nick" nickname).verdict (.text "Chloé") =
      .rejected ((Failure.maxLength 4).withField "nick") := by decide +kernel
  have he : ((policy.countingIn .bytes).checker "nick" nickname).verdict (.text "é") =
      .rejected ((Failure.minLength 3).withField "nick") := by decide +kernel
  exact ⟨hascii, hsame _ hascii, hchloe, hlong _ _ hchloe rfl, he, hshort _ _ he rfl,
    by decide +kernel, by decide +kernel, by decide +kernel, by decide +kernel, by decide +kernel⟩

end FormCheck
