import FormCheck.Calendar
import FormCheck.Proofs.Bytes
import FormCheck.Proofs.StandardDates

/-!
# The date with which a text begins

A calendar is asked about texts that go on after their date. It takes the first ten bytes behind the
blanks and reads them in the standard layout, without the shape that a field asks for. A standard text
has ten characters of one byte each, so it is read; and so is every loose spelling that has ten bytes.

The text is one for `parse_calendar_date`, which is `Date.leading?`.

* `Date.takeBytes?_eq_some_iff`: so many bytes are taken if the text has a head of this size.
* `Date.LooseText.year_range`: ten bytes do not hold a year out of range.
* `Date.leading?_eq_some_iff`: which texts begin with a date, and with which one.
* **`Date.leading?_standard_iff`**: when only a standard text is read, and what is read in general.
* `Date.not_forall_leading?_standard`: there are others than the standard texts.
-/

namespace FormCheck

namespace Date

variable {d : Date} {s : String} {cs head : List Char}

/-! ## Bytes -/

/-- **So many bytes are taken** if the text has a head of this size, which is then what is taken. -/
theorem takeBytes?_eq_some_iff {n : Nat} :
    takeBytes? n cs = some head ↔ head <+: cs ∧ (String.ofList head).utf8ByteSize = n := by
  induction n, cs using takeBytes?.induct generalizing head with
  | case1 cs =>
    rw [takeBytes?, Option.some.injEq, Text.utf8ByteSize_eq_zero_iff]
    constructor
    · rintro rfl
      exact ⟨List.nil_prefix, rfl⟩
    · rintro ⟨-, rfl⟩
      rfl
  | case2 n =>
    rw [takeBytes?, List.prefix_nil]
    refine iff_of_false (Option.some_ne_none _).symm ?_
    rintro ⟨rfl, hsize⟩
    cases hsize
  | case3 n c rest hfits ih =>
    rw [takeBytes?, if_pos hfits, Option.map_eq_some_iff]
    constructor
    · rintro ⟨taken, htaken, rfl⟩
      obtain ⟨hstart, hsize⟩ := ih.1 htaken
      rw [List.cons_prefix_cons, Text.utf8ByteSize_cons]
      exact ⟨⟨rfl, hstart⟩, by omega⟩
    · rintro ⟨hstart, hsize⟩
      cases head with
      | nil => cases hsize
      | cons x head =>
        obtain ⟨rfl, hrest⟩ := List.cons_prefix_cons.1 hstart
        rw [Text.utf8ByteSize_cons] at hsize
        exact ⟨head, ih.2 ⟨hrest, by omega⟩, rfl⟩
  | case4 n c rest hover =>
    rw [takeBytes?, if_neg hover]
    refine iff_of_false (Option.some_ne_none _).symm ?_
    rintro ⟨hstart, hsize⟩
    cases head with
    | nil => cases hsize
    | cons x head =>
      obtain ⟨rfl, -⟩ := List.cons_prefix_cons.1 hstart
      rw [Text.utf8ByteSize_cons] at hsize
      omega

/-! ## Ten bytes -/

theorem utf8Size_of_isDigit {c : Char} (h : isDigit c = true) : c.utf8Size = 1 := by
  have hle : c ≤ '9' := of_decide_eq_true (Bool.and_eq_true_iff.1 h).2
  rw [Char.le_def, UInt32.le_iff_toNat_le] at hle
  rw [Char.utf8Size_eq_one_iff, UInt32.le_iff_toNat_le]
  exact Nat.le_trans hle (by decide)

theorem utf8ByteSize_of_isIsoShaped (h : isIsoShaped cs = true) :
    (String.ofList cs).utf8ByteSize = 10 := by
  obtain ⟨hlength, hchars⟩ := of_isIsoShaped h
  rw [Text.utf8ByteSize_eq_length_iff.2 fun c hc => ?_, hlength]
  obtain rfl | hdigit := hchars c hc
  · rfl
  · exact utf8Size_of_isDigit hdigit

end Date

namespace Layout.NumberText

variable {signed : Bool} {width k : Nat} {cs : List Char} {n : Int}

theorem length_pos (h : NumberText signed width cs n) : 0 < cs.length := by
  cases h with
  | plain blank run some fits =>
    rw [List.length_append, run.length]
    omega
  | plus blank run some allowed =>
    rw [List.length_append, List.length_cons]
    omega
  | minus blank run some allowed =>
    rw [List.length_append, List.length_cons]
    omega

/-- A number with few digits is small; a sign takes the place of a digit. -/
theorem natAbs_lt (h : NumberText signed width cs n) (hwidth : width ≤ k)
    (hlength : cs.length ≤ k + 1) : n.natAbs < Nat.pow 10 k := by
  have hpow : ∀ {count}, count ≤ k → Nat.pow 10 count ≤ Nat.pow 10 k := fun hle =>
    Nat.pow_le_pow_right (by decide) hle
  cases h with
  | plain blank run some fits =>
    rw [Int.natAbs_natCast]
    exact Nat.lt_of_lt_of_le run.digitsValue_lt (hpow (Nat.le_trans fits hwidth))
  | plus blank run some allowed =>
    rw [List.length_append, List.length_cons, run.length] at hlength
    rw [Int.natAbs_natCast]
    exact Nat.lt_of_lt_of_le run.digitsValue_lt (hpow (by omega))
  | minus blank run some allowed =>
    rw [List.length_append, List.length_cons, run.length] at hlength
    rw [Int.natAbs_neg, Int.natAbs_natCast]
    exact Nat.lt_of_lt_of_le run.digitsValue_lt (hpow (by omega))

end Layout.NumberText

namespace Date

variable {d : Date} {s : String} {cs head : List Char}

/-- **Ten characters do not hold a year out of range**: five digits behind a sign are the most. -/
theorem LooseText.year_range (h : LooseText d cs) (hlength : cs.length ≤ 10) :
    Clues.yearRange.1 ≤ d.year ∧ d.year ≤ Clues.yearRange.2 := by
  obtain ⟨ys, ms, ds, hys, hms, hds, rfl⟩ := h
  have hmonth := hms.length_pos
  have hday := hds.length_pos
  simp only [List.length_append, List.length_cons] at hlength
  have hyear : d.year.natAbs < 100000 := hys.natAbs_lt (k := 5) (by decide) (by omega)
  simp only [Clues.yearRange]
  omega

/-- **A text begins with a date** if behind its blanks there are ten bytes that spell the date, be it
loosely. -/
theorem leading?_eq_some_iff :
    leading? s = some d ↔
      ∃ head, head <+: Text.trimmed s.toList ∧ (String.ofList head).utf8ByteSize = 10 ∧
        LooseText d head := by
  unfold leading?
  rw [Option.bind_eq_some_iff]
  constructor
  · rintro ⟨head, htake, hread⟩
    obtain ⟨hstart, hsize⟩ := takeBytes?_eq_some_iff.1 htake
    exact ⟨head, hstart, hsize, (read?_isoFormat_iff_looseText.1 hread).2⟩
  · rintro ⟨head, hstart, hsize, hloose⟩
    have hlength : head.length ≤ 10 := hsize ▸ Text.length_le_utf8ByteSize head
    exact ⟨head, takeBytes?_eq_some_iff.2 ⟨hstart, hsize⟩,
      read?_isoFormat_iff_looseText.2 ⟨hloose.year_range hlength, hloose⟩⟩

/-- If the first ten characters have the shape of the standard layout, they are what is read. -/
theorem leading?_of_isIsoShaped (h : isIsoShaped ((Text.trimmed s.toList).take 10) = true) :
    leading? s = read? isoFormat.toList ((Text.trimmed s.toList).take 10) := by
  have htake : takeBytes? 10 (Text.trimmed s.toList) = some ((Text.trimmed s.toList).take 10) :=
    takeBytes?_eq_some_iff.2 ⟨List.take_prefix _ _, utf8ByteSize_of_isIsoShaped h⟩
  rw [leading?, htake, Option.bind_some]

/-- **A text that spells a date in the standard format begins with that date.** -/
theorem leading?_of_parse? (h : parse? isoFormat s = some d) : leading? s = some d := by
  obtain ⟨hshape, hread⟩ := parse?_isoFormat_eq_some_iff.1 h
  have hall : (Text.trimmed s.toList).take 10 = Text.trimmed s.toList :=
    List.take_of_length_le (Nat.le_of_eq (of_isIsoShaped hshape).1)
  rw [leading?_of_isIsoShaped (hall.symm ▸ hshape), hall, hread]

/-- The first ten characters are read as a field would read them, if they have the shape that it asks
for. -/
theorem parse?_head_eq_some_iff :
    parse? isoFormat (String.ofList ((Text.trimmed s.toList).take 10)) = some d ↔
      leading? s = some d ∧ isIsoShaped ((Text.trimmed s.toList).take 10) = true := by
  rw [parse?_isoFormat_eq_some_iff, String.toList_ofList]
  have hlength : ((Text.trimmed s.toList).take 10).length ≤ 10 := List.length_take_le _ _
  have hleading := leading?_of_isIsoShaped (s := s)
  generalize (Text.trimmed s.toList).take 10 = cs at hlength hleading
  constructor
  · rintro ⟨hshape, hread⟩
    -- the shape has all of the ten characters, so that none of them was a blank at an end
    have hall : Text.trimmed cs = cs := by
      refine (Text.trimmed_sublist cs).eq_of_length_le ?_
      rwa [(of_isIsoShaped hshape).1]
    rw [hall] at hshape hread
    exact ⟨(hleading hshape).trans hread, hshape⟩
  · rintro ⟨hread, hshape⟩
    rw [trimmed_of_isIsoShaped hshape]
    exact ⟨hshape, (hleading hshape).symm.trans hread⟩

/-- **The standard texts among those that are read** are the ones whose first ten characters have the
shape of the standard layout. -/
theorem leading?_and_isIsoShaped_iff :
    leading? s = some d ∧ isIsoShaped ((Text.trimmed s.toList).take 10) = true ↔
      d.FourDigitYear ∧ d.chars <+: Text.trimmed s.toList := by
  constructor
  · rintro ⟨hread, hshape⟩
    rw [leading?_of_isIsoShaped hshape] at hread
    obtain ⟨hfour, hchars⟩ := read?_isoFormat_eq_some_iff.1 ⟨hshape, hread⟩
    exact ⟨hfour, hchars ▸ List.take_prefix _ _⟩
  · rintro ⟨hfour, hstart⟩
    obtain ⟨hshape, hread⟩ := read?_isoFormat_eq_some_iff.2 ⟨hfour, rfl⟩
    have htake : (Text.trimmed s.toList).take 10 = d.chars := by
      rw [List.prefix_iff_eq_take.1 hstart, (of_isIsoShaped hshape).1]
    rw [leading?_of_isIsoShaped (htake.symm ▸ hshape), htake]
    exact ⟨hread, hshape⟩

/-- A text has a head and a rest if its characters begin with those of the head. -/
theorem exists_rest_iff {text : String} :
    (∃ rest, text = String.ofList head ++ rest) ↔ head <+: text.toList := by
  constructor
  · rintro ⟨rest, rfl⟩
    rw [String.toList_append, String.toList_ofList]
    exact List.prefix_append _ _
  · rintro ⟨rest, hrest⟩
    refine ⟨String.ofList rest, String.toList_injective ?_⟩
    rw [String.toList_append, String.toList_ofList, String.toList_ofList, hrest]

/-- **When only a standard text is read.** The calendar reads a text for the date with whose standard
text it begins, and for no other text, exactly if whatever it reads from it has the standard shape in
its first ten characters. In general it reads the date that the first ten bytes behind the blanks
spell, with fewer digits, with blanks before a number or with a sign as it may be; those of the
standard shape are the ones of whose first ten characters a field reads the same date. Of a text that
begins with no date a calendar says neither that it is on a weekend nor that it is a holiday. -/
theorem leading?_standard_iff (s : String) :
    ((∀ d : Date, leading? s = some d ↔
        d.FourDigitYear ∧ ∃ rest, Text.trim s = d.text ++ rest) ↔
      ∀ d : Date, leading? s = some d → isIsoShaped ((Text.trim s).toList.take 10) = true) ∧
    (∀ d : Date, leading? s = some d ↔
      ∃ head rest, Text.trim s = head ++ rest ∧ head.utf8ByteSize = 10 ∧
        LooseText d head.toList) ∧
    (∀ d : Date, parse? isoFormat (String.ofList ((Text.trim s).toList.take 10)) = some d ↔
      leading? s = some d ∧ isIsoShaped ((Text.trim s).toList.take 10) = true) ∧
    (leading? s = none →
      Calendar.isWeekendText s = false ∧ ∀ c : Calendar, c.isHolidayText s = false) := by
  rw [Text.toList_trim]
  have hstandard : ∀ d : Date, (d.FourDigitYear ∧ ∃ rest, Text.trim s = d.text ++ rest) ↔
      leading? s = some d ∧ isIsoShaped ((Text.trimmed s.toList).take 10) = true := by
    intro d
    rw [text, exists_rest_iff, Text.toList_trim]
    exact leading?_and_isIsoShaped_iff.symm
  refine ⟨⟨fun h d hread => ?_, fun hshape d => ?_⟩, fun d => ?_, fun d => parse?_head_eq_some_iff,
    fun hnone => ⟨?_, fun c => ?_⟩⟩
  · exact ((hstandard d).1 ((h d).1 hread)).2
  · rw [hstandard]
    exact ⟨fun hread => ⟨hread, hshape d hread⟩, fun h => h.1⟩
  · rw [leading?_eq_some_iff, ← Text.toList_trim]
    constructor
    · rintro ⟨head, hstart, hsize, hloose⟩
      obtain ⟨rest, hrest⟩ := exists_rest_iff.2 hstart
      exact ⟨String.ofList head, rest, hrest, hsize, by rwa [String.toList_ofList]⟩
    · rintro ⟨text, rest, hrest, hsize, hloose⟩
      obtain ⟨head, rfl⟩ : ∃ head, text = String.ofList head := ⟨_, String.ofList_toList.symm⟩
      rw [String.toList_ofList] at hloose
      exact ⟨head, exists_rest_iff.1 ⟨rest, hrest⟩, hsize, hloose⟩
  · rw [Calendar.isWeekendText, hnone, Option.any_none]
  · rw [Calendar.isHolidayText, hnone, Option.any_none]

end Date

namespace Sample

/-- The fourth of July 2025. -/
def independenceDay : Date := ⟨2025, 7, 4, by decide, by decide⟩

end Sample

namespace Date

open Sample (independenceDay)

/-- **There are others than the standard texts**: a calendar reads a year with a sign and a month of
one digit, where a field finds no date. -/
theorem not_forall_leading?_standard :
    ¬ ∀ (s : String) (d : Date), leading? s = some d ↔
      d.FourDigitYear ∧ ∃ rest, Text.trim s = d.text ++ rest := by
  intro h
  have hread : leading? "+2025-7-04" = some independenceDay := by decide +kernel
  obtain ⟨-, rest, hrest⟩ := (h _ _).1 hread
  have hstart : independenceDay.chars <+: (Text.trim "+2025-7-04").toList :=
    exists_rest_iff.1 ⟨rest, hrest⟩
  exact absurd hstart (by decide +kernel)

end Date

open Sample in
/-- The fourth of July with blanks for noughts, with a time behind it, and with two bytes for the last
digit, which leaves no whole head of ten bytes. -/
theorem leading?_standard_iff_independenceDay :
    Date.leading? "2025-  7-4" = some independenceDay ∧
    (∃ head rest, Text.trim "2025-  7-4" = head ++ rest ∧ head.utf8ByteSize = 10 ∧
      Date.LooseText independenceDay head.toList) ∧
    Date.isIsoShaped ((Text.trim "\u00a02025-07-04T23:59:59").toList.take 10) = true ∧
    (∀ d : Date, Date.leading? "\u00a02025-07-04T23:59:59" = some d ↔
      d.FourDigitYear ∧ ∃ rest, Text.trim "\u00a02025-07-04T23:59:59" = d.text ++ rest) ∧
    Date.parse? Date.isoFormat
      (String.ofList ((Text.trim "\u00a02025-07-04T23:59:59").toList.take 10)) =
        some independenceDay ∧
    Date.leading? "2025-07-0\u0664" = none ∧
    Calendar.usFederal2025.isHolidayText "2025-07-0\u0664" = false := by
  obtain ⟨-, hloose, -⟩ := Date.leading?_standard_iff "2025-  7-4"
  obtain ⟨hstandard, -, hfield, -⟩ := Date.leading?_standard_iff "\u00a02025-07-04T23:59:59"
  obtain ⟨-, -, -, hnone⟩ := Date.leading?_standard_iff "2025-07-0\u0664"
  have hread : Date.leading? "2025-  7-4" = some independenceDay := by decide +kernel
  have htimed : Date.leading? "\u00a02025-07-04T23:59:59" = some independenceDay := by
    decide +kernel
  have hshape :
      Date.isIsoShaped ((Text.trim "\u00a02025-07-04T23:59:59").toList.take 10) = true := by
    decide +kernel
  have hcut : Date.leading? "2025-07-0\u0664" = none := by decide +kernel
  obtain ⟨-, hholiday⟩ := hnone hcut
  exact ⟨hread, (hloose _).1 hread, hshape, hstandard.2 fun _ _ => hshape,
    (hfield _).2 ⟨htimed, hshape⟩, hcut, hholiday Calendar.usFederal2025⟩

end FormCheck
