import FormCheck.Proofs.LooseDates
import FormCheck.Proofs.Remarks

/-!
# Dates in the standard format

The reader of layouts is lenient: blanks before a number do not count, numbers need not have all
their digits, a year may have a sign. In the standard format a field asks for ten digits and hyphens
first. What is left then is exactly the standard text of a date.

The field reads by `parse_date`, which asks `is_iso_shaped` first under the default `date_format`.

* `Date.isIsoShaped_iff`, `Date.read?_columns`: the shape that is asked for, and what is read from it:
  in columns of digits the lenient reader has nothing to be lenient about.
* `Date.read?_isoFormat_eq_some_iff`: the texts of that shape that are read are the standard ones.
* **`Date.parse?_decodes_text`**: a field reads a date exactly from its standard text, with or without
  blanks around it, and so does the policy that reads an earliest date.
-/

namespace FormCheck

/-! ## The shape of the standard layout -/

theorem DigitRun.exists_cons {width : Nat} {ds : List Char} (h : DigitRun (width + 1) ds) :
    ∃ c rest, ds = c :: rest ∧ isDigit c = true ∧ DigitRun width rest := by
  cases ds with
  | nil => cases h.length
  | cons c rest => exact ⟨c, rest, rfl, h.head, h.tail⟩

theorem DigitRun.eq_nil {ds : List Char} (h : DigitRun 0 ds) : ds = [] :=
  List.eq_nil_of_length_eq_zero h.length

theorem DigitRun.numberText {width : Nat} {ds : List Char} (h : DigitRun width ds) (signed : Bool)
    (hwidth : 0 < width) : Layout.NumberText signed width ds (digitsValue ds) := by
  have hplain : Layout.NumberText signed width ([] ++ ds) (digitsValue ds) :=
    .plain nofun h hwidth (Nat.le_refl width)
  exact hplain

namespace Date

/-- **The shape of the standard layout** is that of four, two and two digits with hyphens between. -/
theorem isIsoShaped_iff {cs : List Char} : isIsoShaped cs = true ↔
    ∃ ys ms ds, DigitRun 4 ys ∧ DigitRun 2 ms ∧ DigitRun 2 ds ∧
      cs = ys ++ '-' :: (ms ++ '-' :: ds) := by
  constructor
  · intro h
    unfold isIsoShaped at h
    split at h
    · rename_i y₁ y₂ y₃ y₄ m₁ m₂ d₁ d₂
      simp only [List.all_cons, List.all_nil, Bool.and_eq_true, Bool.and_true] at h
      obtain ⟨hy₁, hy₂, hy₃, hy₄, hm₁, hm₂, hd₁, hd₂⟩ := h
      exact ⟨[y₁, y₂, y₃, y₄], [m₁, m₂], [d₁, d₂], ⟨rfl, by simp [*]⟩, ⟨rfl, by simp [*]⟩,
        ⟨rfl, by simp [*]⟩, rfl⟩
    · cases h
  · rintro ⟨ys, ms, ds, hys, hms, hds, rfl⟩
    obtain ⟨y₁, _, rfl, hy₁, hys⟩ := hys.exists_cons
    obtain ⟨y₂, _, rfl, hy₂, hys⟩ := hys.exists_cons
    obtain ⟨y₃, _, rfl, hy₃, hys⟩ := hys.exists_cons
    obtain ⟨y₄, _, rfl, hy₄, hys⟩ := hys.exists_cons
    obtain ⟨m₁, _, rfl, hm₁, hms⟩ := hms.exists_cons
    obtain ⟨m₂, _, rfl, hm₂, hms⟩ := hms.exists_cons
    obtain ⟨d₁, _, rfl, hd₁, hds⟩ := hds.exists_cons
    obtain ⟨d₂, _, rfl, hd₂, hds⟩ := hds.exists_cons
    rw [hys.eq_nil, hms.eq_nil, hds.eq_nil]
    simp [isIsoShaped, hy₁, hy₂, hy₃, hy₄, hm₁, hm₂, hd₁, hd₂]

/-- There are no blanks in this shape. -/
theorem trimmed_of_isIsoShaped {cs : List Char} (h : isIsoShaped cs = true) :
    Text.trimmed cs = cs := by
  refine Text.trimmed_eq_self fun c hc => ?_
  obtain rfl | hdigit := (of_isIsoShaped h).2 c hc
  · rfl
  · exact not_isBlank_of_isDigit hdigit

/-- What is read from columns of digits is the date with these numbers, if there is one. -/
theorem read?_columns {ys ms ds : List Char} (hys : DigitRun 4 ys) (hms : DigitRun 2 ms)
    (hds : DigitRun 2 ds) :
    read? isoFormat.toList (ys ++ '-' :: (ms ++ '-' :: ds)) =
      ofYmd? (digitsValue ys) (digitsValue ms) (digitsValue ds) := by
  rw [read?_isoFormat (hys.numberText true (by decide)) (hms.numberText false (by decide))
    (hds.numberText false (by decide))]
  cases hd : ofYmd? (digitsValue ys) (digitsValue ms) (digitsValue ds) with
  | none => rfl
  | some d =>
    obtain ⟨hyear, -⟩ := ofYmd?_eq_some_iff.1 hd
    have hlt : digitsValue ys < 10000 := hys.digitsValue_lt
    refine Clues.inRange_eq_some_iff.2 ⟨rfl, ?_⟩
    simp only [Clues.yearRange]
    omega

/-! ## The standard text of a date -/

/-- The year has four digits at most and no sign. -/
def FourDigitYear (d : Date) : Prop := 0 ≤ d.year ∧ d.year ≤ 9999

instance (d : Date) : Decidable d.FourDigitYear := inferInstanceAs (Decidable (_ ∧ _))

variable {d d' : Date} {s : String}

theorem month_lt (d : Date) : d.month < 100 := Nat.lt_of_le_of_lt d.month_range.2 (by decide)

theorem day_lt (d : Date) : d.day < 100 := Nat.lt_of_le_of_lt d.day_le (by decide)

theorem FourDigitYear.year_lt (h : d.FourDigitYear) : d.year.toNat < 10000 := by
  unfold FourDigitYear at h
  omega

theorem FourDigitYear.digitRun (h : d.FourDigitYear) : DigitRun 4 (padded 4 d.year.toNat) :=
  digitRun_padded (by decide) h.year_lt

theorem digitRun_month (d : Date) : DigitRun 2 (padded 2 d.month) :=
  digitRun_padded (by decide) d.month_lt

theorem digitRun_day (d : Date) : DigitRun 2 (padded 2 d.day) := digitRun_padded (by decide) d.day_lt

/-- The standard text of a date, column by column. -/
theorem chars_eq (h : d.FourDigitYear) :
    d.chars = padded 4 d.year.toNat ++ '-' :: (padded 2 d.month ++ '-' :: padded 2 d.day) := by
  have hyear : yearText d.year = padded 4 d.year.toNat := by
    unfold yearText
    unfold FourDigitYear at h
    rw [if_neg (by omega), if_neg (by omega)]
    congr 1
    omega
  rw [chars, hyear, List.append_assoc]
  rfl

/-- **The standard layout spells exactly the standard texts.** -/
theorem read?_isoFormat_eq_some_iff {cs : List Char} :
    isIsoShaped cs = true ∧ read? isoFormat.toList cs = some d ↔ d.FourDigitYear ∧ cs = d.chars := by
  constructor
  · rintro ⟨hshape, hread⟩
    obtain ⟨ys, ms, ds, hys, hms, hds, rfl⟩ := isIsoShaped_iff.1 hshape
    rw [read?_columns hys hms hds] at hread
    obtain ⟨hyear, hmonth, hday⟩ := ofYmd?_eq_some_iff.1 hread
    have hlt : digitsValue ys < 10000 := hys.digitsValue_lt
    have hfour : d.FourDigitYear := by
      unfold FourDigitYear
      omega
    refine ⟨hfour, ?_⟩
    rw [chars_eq hfour, hyear, hmonth, hday, Int.toNat_natCast, padded_digitsValue (by decide) hys,
      padded_digitsValue (by decide) hms, padded_digitsValue (by decide) hds]
  · rintro ⟨hfour, rfl⟩
    rw [chars_eq hfour]
    refine ⟨isIsoShaped_iff.2 ⟨_, _, _, hfour.digitRun, d.digitRun_month, d.digitRun_day, rfl⟩, ?_⟩
    rw [read?_columns hfour.digitRun d.digitRun_month d.digitRun_day, digitsValue_padded,
      digitsValue_padded, digitsValue_padded]
    exact ofYmd?_eq_some_iff.2 ⟨(Int.toNat_of_nonneg hfour.1).symm, rfl, rfl⟩

theorem chars_eq_digits (h : d.FourDigitYear) :
    d.chars = [Nat.digitChar (d.year.toNat / 1000), Nat.digitChar (d.year.toNat / 100 % 10),
      Nat.digitChar (d.year.toNat / 10 % 10), Nat.digitChar (d.year.toNat % 10), '-',
      Nat.digitChar (d.month / 10), Nat.digitChar (d.month % 10), '-',
      Nat.digitChar (d.day / 10), Nat.digitChar (d.day % 10)] := by
  rw [chars_eq h, padded_four h.year_lt, padded_two d.month_lt, padded_two d.day_lt]
  rfl

theorem trim_text (h : d.FourDigitYear) : Text.trim d.text = d.text := by
  have hshape : isIsoShaped d.chars = true := (read?_isoFormat_eq_some_iff.2 ⟨h, rfl⟩).1
  rw [Text.trim, text, String.toList_ofList, trimmed_of_isIsoShaped hshape]

/-- **A field reads a date in the standard format** exactly from its standard text, with or without
blanks around it. -/
theorem parse?_eq_some_iff_text :
    parse? isoFormat s = some d ↔ d.FourDigitYear ∧ Text.trim s = d.text := by
  rw [parse?_isoFormat_eq_some_iff, read?_isoFormat_eq_some_iff, Text.trim, text, String.ofList_inj]

theorem parse?_text (h : d.FourDigitYear) : parse? isoFormat d.text = some d :=
  parse?_eq_some_iff_text.2 ⟨h, trim_text h⟩

theorem eq_of_text_eq (h : d.FourDigitYear) (h' : d'.FourDigitYear)
    (htext : d.text = d'.text) : d = d' := by
  have hd : parse? isoFormat d.text = some d := parse?_text h
  have hd' : parse? isoFormat d'.text = some d' := parse?_text h'
  rw [htext, hd'] at hd
  exact (Option.some.inj hd).symm

/-- **In the standard format a date is decoded exactly from its encoding.** A field reads a date from
the texts that are its standard text once the blanks around it are taken away. That text is made of
the four digits of the year, the two of the month and the two of the day; it is read as the date; no
two dates share it; and what is no such text of any date is not read at all. The same holds of an
earliest date that a requirement writes in digits, which is reported if it is not read. -/
theorem parse?_decodes_text :
    (∀ (s : String) (d : Date),
      parse? isoFormat s = some d ↔ d.FourDigitYear ∧ Text.trim s = d.text) ∧
    (∀ d : Date, d.FourDigitYear →
      d.text.toList = [Nat.digitChar (d.year.toNat / 1000), Nat.digitChar (d.year.toNat / 100 % 10),
        Nat.digitChar (d.year.toNat / 10 % 10), Nat.digitChar (d.year.toNat % 10), '-',
        Nat.digitChar (d.month / 10), Nat.digitChar (d.month % 10), '-',
        Nat.digitChar (d.day / 10), Nat.digitChar (d.day % 10)] ∧
      parse? isoFormat d.text = some d ∧
      (∀ d' : Date, d'.FourDigitYear → d'.text = d.text → d' = d) ∧
      ∀ s s' : String, parse? isoFormat s = some d → parse? isoFormat s' = some d →
        Text.trim s = Text.trim s') ∧
    (∀ s : String, parse? isoFormat s = none ↔
      ∀ d : Date, d.FourDigitYear → Text.trim s ≠ d.text) ∧
    ∀ (p : Policy) (r : Requirement) (written : String), p.settings.dateFormat = isoFormat →
      r.kind = .date → r.minDate = some written → written ≠ "today" →
      (∀ d : Date, p.earliest? written = some d ↔ d.FourDigitYear ∧ Text.trim written = d.text) ∧
      (.invalidMinDate written ∈ p.shortfalls r ↔
        ∀ d : Date, d.FourDigitYear → Text.trim written ≠ d.text) := by
  have hnone : ∀ s : String, parse? isoFormat s = none ↔
      ∀ d : Date, d.FourDigitYear → Text.trim s ≠ d.text := by
    intro s
    rw [Option.eq_none_iff_forall_ne_some]
    refine forall_congr' fun d => ?_
    rw [Ne, parse?_eq_some_iff_text, not_and]
  refine ⟨fun s d => parse?_eq_some_iff_text, fun d h => ⟨?_, parse?_text h, ?_, ?_⟩, hnone, ?_⟩
  · rw [text, String.toList_ofList, chars_eq_digits h]
  · exact fun d' h' htext => eq_of_text_eq h' h htext
  · intro s s' hs hs'
    rw [(parse?_eq_some_iff_text.1 hs).2, (parse?_eq_some_iff_text.1 hs').2]
  · intro p r written hformat hkind hmin hword
    have hearliest : p.earliest? written = parse? isoFormat written := by
      rw [Policy.earliest?_literal p hword, hformat]
    rw [Policy.invalidMinDate_mem_shortfalls_iff hkind hmin, hearliest]
    exact ⟨fun d => parse?_eq_some_iff_text, hnone written⟩

/-- A digit too few, a sign, a fifth digit, a blank inside, digits of another script, a day that
February does not have: none of these spells a date. -/
example : ["2024-2-03", "+024-02-03", "12024-02-03", "2024- 2-03",
    "\u0662\u0660\u0662\u0664-02-03", "2023-02-29"].all fun s => (parse? isoFormat s).isNone := by
  decide +kernel

end Date

namespace Sample

/-- The leap day of the year 2000. -/
def leapDay : Date := ⟨2000, 2, 29, by decide, by decide⟩

/-- A day that has to be on or after a day which the calendar does not have. -/
def impossible : Requirement := { kind := .date, minDate := some "1900-02-29" }

end Sample

open Sample in
/-- The leap day of 2000 is read with a no-break space in front of it, and the one of 1900 is
reported. -/
theorem parse?_decodes_text_leapDay :
    leapDay.FourDigitYear ∧ Date.parse? Date.isoFormat "\u00a02000-02-29" = some leapDay ∧
    Date.parse? Date.isoFormat leapDay.text = some leapDay ∧
    policy.settings.dateFormat = Date.isoFormat ∧ impossible.kind = .date ∧
    impossible.minDate = some "1900-02-29" ∧ "1900-02-29" ≠ "today" ∧
    .invalidMinDate "1900-02-29" ∈ policy.shortfalls impossible ∧
    ∀ d : Date, d.FourDigitYear → Text.trim "1900-02-29" ≠ d.text := by
  obtain ⟨hread, hdate, -, hliteral⟩ := Date.parse?_decodes_text
  have hfour : leapDay.FourDigitYear := by decide
  obtain ⟨-, hown, -, -⟩ := hdate leapDay hfour
  have hword : "1900-02-29" ≠ "today" := by decide
  obtain ⟨-, hreported⟩ := hliteral policy impossible "1900-02-29" rfl rfl rfl hword
  have hshortfall : .invalidMinDate "1900-02-29" ∈ policy.shortfalls impossible := by
    decide +kernel
  exact ⟨hfour, (hread _ _).2 ⟨hfour, by decide +kernel⟩, hown, rfl, rfl, rfl, hword, hshortfall,
    hreported.1 hshortfall⟩

end FormCheck
