import FormCheck.Settings

/-!
# The bytes of a text

In UTF-8 a character has from one to four bytes, and a text has those of its characters.

`LengthMode` counts characters or bytes.

* `Text.utf8ByteSize_cons`: the bytes of a text, character by character.
* `Text.length_le_utf8ByteSize`, `Text.utf8ByteSize_le`: there are at least as many bytes as
  characters, and at most four times as many.
* `Text.utf8ByteSize_eq_length_iff`: there are as many bytes as characters exactly if each character
  has one byte; these are the characters of ASCII (`Text.utf8Size_eq_one_iff`).
-/

namespace FormCheck.Text

variable {cs : List Char}

/-- A text of ASCII characters only. -/
def IsAscii (s : String) : Prop := ∀ c ∈ s.toList, c.toNat < 128

instance (s : String) : Decidable (IsAscii s) :=
  decidable_of_iff (s.toList.all (·.toNat < 128) = true) (by simp [IsAscii])

theorem utf8Size_eq_one_iff {c : Char} : c.utf8Size = 1 ↔ c.toNat < 128 := by
  rw [Char.utf8Size_eq_one_iff, UInt32.le_iff_toNat_le]
  exact Nat.lt_succ_iff.symm

theorem utf8ByteSize_cons (c : Char) (cs : List Char) :
    (String.ofList (c :: cs)).utf8ByteSize = c.utf8Size + (String.ofList cs).utf8ByteSize := by
  rw [String.ofList_cons, String.utf8ByteSize_append, String.utf8ByteSize_singleton]

theorem length_le_utf8ByteSize (cs : List Char) : cs.length ≤ (String.ofList cs).utf8ByteSize := by
  induction cs with
  | nil => exact Nat.zero_le _
  | cons c rest ih =>
    have hc := c.utf8Size_pos
    rw [utf8ByteSize_cons, List.length_cons]
    omega

theorem utf8ByteSize_le (cs : List Char) : (String.ofList cs).utf8ByteSize ≤ 4 * cs.length := by
  induction cs with
  | nil => exact Nat.le_refl _
  | cons c rest ih =>
    have hc := c.utf8Size_le_four
    rw [utf8ByteSize_cons, List.length_cons]
    omega

/-- **As many bytes as characters**: each character has one byte, since none has less. -/
theorem utf8ByteSize_eq_length_iff :
    (String.ofList cs).utf8ByteSize = cs.length ↔ ∀ c ∈ cs, c.utf8Size = 1 := by
  induction cs with
  | nil => exact iff_of_true rfl nofun
  | cons c rest ih =>
    have hc := c.utf8Size_pos
    have hrest := length_le_utf8ByteSize rest
    rw [List.forall_mem_cons, ← ih, utf8ByteSize_cons, List.length_cons]
    omega

theorem utf8ByteSize_eq_zero_iff : (String.ofList cs).utf8ByteSize = 0 ↔ cs = [] := by
  constructor
  · intro h
    have hlength := length_le_utf8ByteSize cs
    exact List.eq_nil_of_length_eq_zero (by omega)
  · rintro rfl
    rfl

end FormCheck.Text

namespace FormCheck.LengthUnit

/-! ## The two units of length -/

theorem chars_le_bytes (s : String) : chars.measure s ≤ bytes.measure s := by
  have h := Text.length_le_utf8ByteSize s.toList
  rwa [String.ofList_toList, String.length_toList] at h

theorem bytes_le_four_mul_chars (s : String) : bytes.measure s ≤ 4 * chars.measure s := by
  have h := Text.utf8ByteSize_le s.toList
  rwa [String.ofList_toList, String.length_toList] at h

/-- The units agree on the texts of ASCII characters, and on no others. -/
theorem chars_eq_bytes_iff (s : String) : chars.measure s = bytes.measure s ↔ Text.IsAscii s := by
  have h := @Text.utf8ByteSize_eq_length_iff s.toList
  rw [String.ofList_toList, String.length_toList] at h
  exact eq_comm.trans (h.trans (forall₂_congr fun _ _ => Text.utf8Size_eq_one_iff))

end FormCheck.LengthUnit
