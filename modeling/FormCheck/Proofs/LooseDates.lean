import FormCheck.Proofs.Columns
import FormCheck.Date.Reader

/-!
# Loosely spelled dates

The reader of layouts is lenient: blanks before a number do not count, a number need not have all
its digits, and a year may have a sign. This file says which texts that admits in the standard
layout.

The reader is the one under `parse_date` and `parse_calendar_date`, which narrow it in different
ways.

* `Layout.NumberText`: a number as the reader takes it, and which number it is.
  `Layout.exists_numberText` and `Layout.readNumber?_numberText`: the reader takes such texts and no
  others, up to their last digit.
* `Clues.date?_of_parts`: year, month and day, taken up as clues, determine the date with these
  parts, and there is none if the calendar has no such day.
* `Date.LooseText`: a year, a month and a day as the reader takes them, with hyphens between.
* **`Date.read?_isoFormat_iff_looseText`**: the standard layout reads a date of the known years
  exactly from its loose spellings.
-/

namespace FormCheck

/-! ## Clues to year, month and day -/

namespace Clues

variable {clues : Clues} {part : Clue} {value : Int}

/-- A clue to a part that is not known yet is taken up if it is in range. -/
theorem add?_of_unknown (hunknown : clues.get part = none)
    (hrange : part.range.1 ≤ value ∧ value ≤ part.range.2) :
    clues.add? part value = some ⟨fun p => if p = part then some value else clues.get p⟩ := by
  rw [add?, if_pos hrange, hunknown]

theorem add?_of_not_range (hrange : ¬ (part.range.1 ≤ value ∧ value ≤ part.range.2)) :
    clues.add? part value = none := if_neg hrange

theorem meantYear_alone (year : Option Int) : meantYear year none none = some year := by
  cases year <;> rfl

theorem agrees_of_unknown (h : clues.get part = none) : clues.agrees part value = true := by
  rw [agrees, h]

theorem agreesWithYear_of_unknown {digits : Int} (h : clues.get part = none) :
    clues.agreesWithYear part value digits = true := by
  rw [agreesWithYear, h]

theorem agrees_of_known (h : clues.get part = some value) : clues.agrees part value = true := by
  rw [agrees, h]
  exact decide_eq_true rfl

theorem inRange_eq_some_iff {d d' : Date} :
    inRange d = some d' ↔ d = d' ∧ yearRange.1 ≤ d.year ∧ d.year ≤ yearRange.2 := by
  unfold inRange
  split
  next h => simp [h]
  next h => simp [h]

/-- **Year, month and day alone** determine the date with these parts, if there is one in the range
of years. -/
theorem date?_eq_ofYmd? {year : Int} {month day : Nat} (hyear : clues.get .year = some year)
    (hmonth : clues.get .month = some (month : Int)) (hday : clues.get .day = some (day : Int))
    (hother : ∀ part, part ≠ .year → part ≠ .month → part ≠ .day → clues.get part = none) :
    clues.date? = (Date.ofYmd? year month day).bind inRange := by
  have hfound : clues.dateInYear? year = some (Date.ofYmd? year month day) := by
    unfold dateInYear?
    rw [hmonth, hday]
    rfl
  have hdate : clues.date? = ((Date.ofYmd? year month day).bind inRange).filter fun d =>
      clues.agreesByMonth d && clues.agreesByIsoWeek d && clues.agreesByOrdinal d := by
    unfold date?
    rw [hyear, hother .century (by decide) (by decide) (by decide),
      hother .yearOfCentury (by decide) (by decide) (by decide),
      hother .isoYear (by decide) (by decide) (by decide),
      hother .isoYearOfCentury (by decide) (by decide) (by decide), meantYear_alone, meantYear_alone]
    simp only [Option.bind_some, hfound]
  have hagrees : ∀ part value, part ≠ .year → part ≠ .month → part ≠ .day →
      clues.agrees part value = true := fun part _ hy hm hd =>
    agrees_of_unknown (hother part hy hm hd)
  have hdigits : ∀ part year digits, part ≠ .year → part ≠ .month → part ≠ .day →
      clues.agreesWithYear part year digits = true := fun part _ _ hy hm hd =>
    agreesWithYear_of_unknown (hother part hy hm hd)
  rw [hdate]
  cases hd : (Date.ofYmd? year month day).bind inRange with
  | none => rfl
  | some d =>
    obtain ⟨d', hparts, hrange⟩ := Option.bind_eq_some_iff.1 hd
    obtain ⟨rfl, -⟩ := inRange_eq_some_iff.1 hrange
    obtain ⟨rfl, rfl, rfl⟩ := Date.ofYmd?_eq_some_iff.1 hparts
    have hbyMonth : clues.agreesByMonth d' = true := by
      simp [agreesByMonth, hdigits, agrees_of_known hyear, agrees_of_known hmonth,
        agrees_of_known hday]
    have hbyIsoWeek : clues.agreesByIsoWeek d' = true := by
      unfold agreesByIsoWeek
      generalize d'.isoWeek = yearAndWeek
      simp [hagrees, hdigits]
    have hbyOrdinal : clues.agreesByOrdinal d' = true := by
      simp [agreesByOrdinal, hagrees]
    rw [Option.filter_some, hbyMonth, hbyIsoWeek, hbyOrdinal]
    rfl

/-- Three numbers, taken up as year, month and day, determine the date with these parts. Numbers
that no year, no month or no day has are not taken up, and there is no such date. -/
theorem date?_of_parts (year : Int) (month day : Nat) :
    (((empty.add? .year year).bind (·.add? .month month)).bind (·.add? .day day)).bind date? =
      (Date.ofYmd? year month day).bind inRange := by
  -- If a clue is not taken up, no date in range has that part.
  have hnone : (∀ d : Date, yearRange.1 ≤ d.year ∧ d.year ≤ yearRange.2 →
      ¬ (d.year = year ∧ d.month = month ∧ d.day = day)) →
      (Date.ofYmd? year month day).bind inRange = none := by
    intro h
    refine Option.eq_none_iff_forall_ne_some.2 fun d hd => ?_
    obtain ⟨d', hparts, hrange⟩ := Option.bind_eq_some_iff.1 hd
    exact h d' (inRange_eq_some_iff.1 hrange).2 (Date.ofYmd?_eq_some_iff.1 hparts)
  by_cases hyear : Clue.year.range.1 ≤ year ∧ year ≤ Clue.year.range.2
  · rw [add?_of_unknown rfl hyear, Option.bind_some]
    by_cases hmonth : Clue.month.range.1 ≤ (month : Int) ∧ (month : Int) ≤ Clue.month.range.2
    · rw [add?_of_unknown rfl hmonth, Option.bind_some]
      by_cases hday : Clue.day.range.1 ≤ (day : Int) ∧ (day : Int) ≤ Clue.day.range.2
      · -- A clue takes days up to 31 in every month; the calendar decides about the rest.
        rw [add?_of_unknown rfl hday, Option.bind_some]
        refine date?_eq_ofYmd? rfl rfl rfl fun part hy hm hd => ?_
        simp only [hy, hm, hd, if_false]
        rfl
      · rw [add?_of_not_range hday, hnone]
        · rfl
        rintro d - ⟨-, -, rfl⟩
        have hrange := d.day_range
        have hle := d.day_le
        simp only [Clue.range] at hday
        omega
    · rw [add?_of_not_range hmonth, hnone]
      · rfl
      rintro d - ⟨-, rfl, -⟩
      have hrange := d.month_range
      simp only [Clue.range] at hmonth
      omega
  · rw [add?_of_not_range hyear, hnone]
    · rfl
    rintro d hrange ⟨rfl, -, -⟩
    simp only [yearRange] at hrange
    simp only [Clue.range] at hyear
    omega

end Clues

/-! ## Reading numbers and marks -/

namespace Layout

variable {part : NumberPart} {signed : Bool} {width count : Nat} {n : Int}
  {bs ds cs rest text : List Char} {clues clues' : Clues}

theorem ofText_isoFormat : ofText Date.isoFormat.toList =
    [.number .year, mark '-', .number .month, mark '-', .number .day] := by decide +kernel

/-- The digits that are taken from the head of a text. -/
def leadingDigits : Option Nat → List Char → List Char
  | some max, cs => (cs.takeWhile isDigit).take max
  | none, cs => cs.takeWhile isDigit

theorem leadingDigits_prefix (max : Option Nat) (cs : List Char) :
    leadingDigits max cs <+: cs.takeWhile isDigit := by
  cases max with
  | none => exact List.prefix_refl _
  | some max => exact List.take_prefix _ _

theorem length_leadingDigits_le {max : Option Nat} {m : Nat} (hm : m ∈ max) (cs : List Char) :
    (leadingDigits max cs).length ≤ m := by
  cases hm
  exact List.length_take_le _ _

theorem digits?_eq (min : Nat) (max : Option Nat) (cs : List Char) :
    digits? min max cs =
      if (leadingDigits max cs).length < min then none
      else some (digitsValue (leadingDigits max cs), (leadingDigits max cs).length,
        cs.drop (leadingDigits max cs).length) := by
  cases max <;> rfl

/-- What is read as digits is a run of digits at the head of the text. -/
theorem exists_digitRun {min value : Nat} {max : Option Nat}
    (h : digits? min max cs = some (value, count, rest)) :
    ∃ ds, DigitRun count ds ∧ cs = ds ++ rest ∧ value = digitsValue ds ∧ min ≤ count ∧
      ∀ m ∈ max, count ≤ m := by
  have hstart := leadingDigits_prefix max cs
  have hmax : ∀ m ∈ max, (leadingDigits max cs).length ≤ m := fun _ hm =>
    length_leadingDigits_le hm cs
  rw [digits?_eq] at h
  generalize leadingDigits max cs = taken at h hstart hmax
  split at h
  · cases h
  next hmin =>
    cases h
    have hdigit : ∀ c ∈ taken, isDigit c = true := fun c hc =>
      List.all_eq_true.1 List.all_takeWhile c (hstart.subset hc)
    have hcs := List.prefix_iff_eq_append.1 (hstart.trans (List.takeWhile_prefix isDigit))
    exact ⟨taken, ⟨rfl, hdigit⟩, hcs.symm, rfl, Nat.le_of_not_lt hmin, hmax⟩

/-- A run of digits that is neither too short nor too long is read up to what is no digit. -/
theorem digits?_run {min : Nat} {max : Option Nat} (hds : DigitRun count ds) (hmin : min ≤ count)
    (hmax : ∀ m ∈ max, count ≤ m) (hrest : ∀ c ∈ rest.head?, isDigit c = false) :
    digits? min max (ds ++ rest) = some (digitsValue ds, count, rest) := by
  have hstop : rest.takeWhile isDigit = [] := by
    cases rest with
    | nil => rfl
    | cons c rest => exact List.takeWhile_cons_of_neg (by simp [hrest c rfl])
  have hrun : (ds ++ rest).takeWhile isDigit = ds := by
    rw [List.takeWhile_append_of_pos hds.digit, hstop, List.append_nil]
  have htaken : leadingDigits max (ds ++ rest) = ds := by
    cases max with
    | none => exact hrun
    | some max => exact (congrArg _ hrun).trans (List.take_of_length_le (hds.length ▸ hmax max rfl))
  rw [digits?_eq, htaken, hds.length, if_neg (Nat.not_lt.2 hmin), List.drop_left' hds.length]

/-- **A number as a reader takes it**, and the number that it is: blanks, and then digits. Without a
sign there are at most as many as the part has columns; behind a sign, if there may be one, there
are any number of them. -/
inductive NumberText (signed : Bool) (width : Nat) : List Char → Int → Prop
  | plain {bs ds : List Char} {count : Nat} (blank : ∀ c ∈ bs, isBlank c = true)
      (run : DigitRun count ds) (some : 1 ≤ count) (fits : count ≤ width) :
      NumberText signed width (bs ++ ds) (digitsValue ds)
  | plus {bs ds : List Char} {count : Nat} (blank : ∀ c ∈ bs, isBlank c = true)
      (run : DigitRun count ds) (some : 1 ≤ count) (allowed : signed = true) :
      NumberText signed width (bs ++ '+' :: ds) (digitsValue ds)
  | minus {bs ds : List Char} {count : Nat} (blank : ∀ c ∈ bs, isBlank c = true)
      (run : DigitRun count ds) (some : 1 ≤ count) (allowed : signed = true) :
      NumberText signed width (bs ++ '-' :: ds) (-(digitsValue ds : Int))

theorem exists_digits_of_note {max : Option Nat} {f : Nat → Int}
    (h : (digits? 1 max cs).bind (fun read =>
      (part.note? (f read.1) clues).bind fun clues => some (clues, read.2.2)) =
        some (clues', rest)) :
    ∃ ds count, DigitRun count ds ∧ cs = ds ++ rest ∧ 1 ≤ count ∧ (∀ m ∈ max, count ≤ m) ∧
      part.note? (f (digitsValue ds)) clues = some clues' := by
  obtain ⟨⟨_, count, _⟩, hdigits, h⟩ := Option.bind_eq_some_iff.1 h
  obtain ⟨_, hnote, hread⟩ := Option.bind_eq_some_iff.1 h
  cases hread
  obtain ⟨ds, hrun, rfl, rfl, hsome, hfits⟩ := exists_digitRun hdigits
  exact ⟨ds, count, hrun, rfl, hsome, hfits, hnote⟩

/-- **What is read as a number** is such a text at the head of the whole. -/
theorem exists_numberText (hwidth : part.width = some width)
    (h : readNumber? part clues cs = some (clues', rest)) :
    ∃ text n, NumberText part.signed width text n ∧ cs = text ++ rest ∧
      part.note? n clues = some clues' := by
  obtain ⟨bs, hbs, hblank⟩ : ∃ bs, cs = bs ++ Text.trimmedLeft cs ∧ ∀ c ∈ bs, isBlank c = true :=
    ⟨cs.takeWhile isBlank, List.takeWhile_append_dropWhile.symm,
      List.all_eq_true.1 List.all_takeWhile⟩
  unfold readNumber? at h
  dsimp only at h
  split at h
  next after hsigned htrim =>
    obtain ⟨ds, count, hrun, rfl, hsome, -, hnote⟩ :=
      exists_digits_of_note (f := fun n => -(n : Int)) h
    refine ⟨_, _, .minus hblank hrun hsome hsigned, ?_, hnote⟩
    rw [hbs, htrim, List.append_assoc, List.cons_append]
  next after hsigned htrim =>
    obtain ⟨ds, count, hrun, rfl, hsome, -, hnote⟩ :=
      exists_digits_of_note (f := fun n => (n : Int)) h
    refine ⟨_, _, .plus hblank hrun hsome hsigned, ?_, hnote⟩
    rw [hbs, htrim, List.append_assoc, List.cons_append]
  next =>
    obtain ⟨ds, count, hrun, htrim, hsome, hfits, hnote⟩ :=
      exists_digits_of_note (f := fun n => (n : Int)) h
    dsimp only at htrim
    refine ⟨_, _, .plain hblank hrun hsome (hfits width hwidth), ?_, hnote⟩
    rw [hbs, htrim, List.append_assoc]

/-- Blanks before a number do not count. -/
theorem readNumber?_blanks (part : NumberPart) (clues : Clues) (hbs : ∀ c ∈ bs, isBlank c = true) :
    readNumber? part clues (bs ++ cs) = readNumber? part clues cs := by
  have htrim : Text.trimmedLeft (bs ++ cs) = Text.trimmedLeft cs :=
    List.dropWhile_append_of_pos hbs
  unfold readNumber?
  rw [htrim]

theorem readNumber?_plus (hsigned : part.signed = true) (clues : Clues) (cs : List Char) :
    readNumber? part clues ('+' :: cs) =
      (digits? 1 none cs).bind fun read =>
        (part.note? read.1 clues).map fun clues => (clues, read.2.2) := by
  unfold readNumber?
  rw [hsigned]
  simp only [Option.map_eq_bind]
  rfl

theorem readNumber?_minus (hsigned : part.signed = true) (clues : Clues) (cs : List Char) :
    readNumber? part clues ('-' :: cs) =
      (digits? 1 none cs).bind fun read =>
        (part.note? (-(read.1 : Int)) clues).map fun clues => (clues, read.2.2) := by
  unfold readNumber?
  rw [hsigned]
  simp only [Option.map_eq_bind]
  rfl

theorem readNumber?_digit {c : Char} (hc : isDigit c = true) (part : NumberPart) (clues : Clues)
    (cs : List Char) :
    readNumber? part clues (c :: cs) =
      (digits? 1 part.width (c :: cs)).bind fun read =>
        (part.note? read.1 clues).map fun clues => (clues, read.2.2) := by
  have htrim : Text.trimmedLeft (c :: cs) = c :: cs :=
    Text.trimmedLeft_eq_self (.inr (by simp [not_isBlank_of_isDigit hc]))
  have hminus : c ≠ '-' := ne_of_isDigit hc rfl
  have hplus : c ≠ '+' := ne_of_isDigit hc rfl
  unfold readNumber?
  rw [htrim]
  extract_lets text
  split
  rename_i minus plus unsigned hmatch
  have hunsigned : minus = false ∧ plus = false ∧ unsigned = c :: cs := by
    split at hmatch
    next heq => exact absurd (List.cons.inj heq).1 hminus
    next heq => exact absurd (List.cons.inj heq).1 hplus
    next =>
      cases hmatch
      exact ⟨rfl, rfl, rfl⟩
  obtain ⟨rfl, rfl, rfl⟩ := hunsigned
  simp only [Option.map_eq_bind]
  rfl

/-- **A number is read as what it is**, up to what is no digit. -/
theorem readNumber?_numberText (hwidth : part.width = some width)
    (h : NumberText part.signed width text n) (hrest : ∀ c ∈ rest.head?, isDigit c = false)
    (clues : Clues) :
    readNumber? part clues (text ++ rest) = (part.note? n clues).map fun clues => (clues, rest) := by
  cases h with
  | @plain bs ds count blank run some fits =>
    have hread : digits? 1 part.width (ds ++ rest) = _ :=
      digits?_run run some (by rw [hwidth]; rintro _ ⟨⟩; exact fits) hrest
    rw [List.append_assoc, readNumber?_blanks part clues blank]
    cases ds with
    | nil => exact absurd run.length (Nat.ne_of_lt some)
    | cons c ds =>
      rw [List.cons_append] at hread ⊢
      rw [readNumber?_digit run.head, hread, Option.bind_some]
  | @plus bs ds count blank run some allowed =>
    have hread : digits? 1 none (ds ++ rest) = _ := digits?_run run some nofun hrest
    rw [List.append_assoc, readNumber?_blanks part clues blank, List.cons_append,
      readNumber?_plus allowed, hread, Option.bind_some]
  | @minus bs ds count blank run some allowed =>
    have hread : digits? 1 none (ds ++ rest) = _ := digits?_run run some nofun hrest
    rw [List.append_assoc, readNumber?_blanks part clues blank, List.cons_append,
      readNumber?_minus allowed, hread, Option.bind_some]

/-! ## The standard layout -/

theorem readItem?_mark (c : Char) (clues : Clues) (rest : List Char) :
    readItem? (mark c) clues (c :: rest) = some (clues, rest) := by
  show (if [c].isPrefixOf (c :: rest) then some (clues, (c :: rest).drop 1) else none) = _
  simp

theorem eq_cons_of_readItem?_mark {c : Char}
    (h : readItem? (mark c) clues cs = some (clues', rest)) : cs = c :: rest := by
  have hread : (if [c].isPrefixOf cs then some (clues, cs.drop 1) else none) =
    some (clues', rest) := h
  split at hread
  next hstart =>
    cases hread
    exact (List.prefix_iff_eq_append.1 (List.isPrefixOf_iff_prefix.1 hstart)).symm
  next => cases hread

theorem readAll?_cons (item : Item) (items : List Item) (clues : Clues) (cs : List Char) :
    readAll? readItem? (item :: items) clues cs =
      (readItem? item clues cs).bind fun read => readAll? readItem? items read.1 read.2 := by
  rw [readAll?]
  cases readItem? item clues cs <;> rfl

theorem width_year : NumberPart.width .year = some 4 := rfl

theorem width_month : NumberPart.width .month = some 2 := rfl

theorem width_day : NumberPart.width .day = some 2 := rfl

/-- **Numbers with hyphens between** are taken up as year, month and day. -/
theorem readAll?_isoFormat {ys ms ds : List Char} {year : Int} {month day : Nat}
    (hys : NumberText true 4 ys year) (hms : NumberText false 2 ms month)
    (hds : NumberText false 2 ds day) :
    readAll? readItem? (ofText Date.isoFormat.toList) .empty (ys ++ '-' :: (ms ++ '-' :: ds)) =
      (((Clues.empty.add? .year year).bind (·.add? .month month)).bind (·.add? .day day)).map
        fun clues => (clues, []) := by
  have hmark : ∀ cs : List Char, ∀ c ∈ ('-' :: cs).head?, isDigit c = false := by
    rintro cs _ ⟨⟩
    rfl
  have hyear : ∀ cs : List Char, readItem? (.number .year) .empty (ys ++ '-' :: cs) =
      (Clues.empty.add? .year year).map fun clues => (clues, '-' :: cs) := fun cs =>
    readNumber?_numberText width_year hys (hmark cs) .empty
  have hmonth : ∀ clues (cs : List Char), readItem? (.number .month) clues (ms ++ '-' :: cs) =
      (clues.add? .month month).map fun clues => (clues, '-' :: cs) := fun clues cs =>
    readNumber?_numberText width_month hms (hmark cs) clues
  have hday : ∀ clues, readItem? (.number .day) clues ds =
      (clues.add? .day day).map fun clues => (clues, []) := by
    intro clues
    have hend : ∀ c ∈ ([] : List Char).head?, isDigit c = false := nofun
    have hread := readNumber?_numberText width_day hds hend clues
    rwa [List.append_nil] at hread
  rw [ofText_isoFormat, readAll?_cons, hyear]
  cases Clues.empty.add? .year year with
  | none => rfl
  | some clues =>
    simp only [Option.map_some, Option.bind_some]
    rw [readAll?_cons, readItem?_mark, Option.bind_some, readAll?_cons, hmonth]
    cases clues.add? .month month with
    | none => rfl
    | some clues =>
      simp only [Option.map_some, Option.bind_some]
      rw [readAll?_cons, readItem?_mark, Option.bind_some, readAll?_cons, hday]
      cases clues.add? .day day <;> rfl

theorem NumberText.exists_nat (h : NumberText false width text n) : ∃ m : Nat, n = m := by
  cases h with
  | plain => exact ⟨_, rfl⟩
  | plus blank run some allowed => cases allowed
  | minus blank run some allowed => cases allowed

/-- **What is read in the standard layout** are numbers with hyphens between. -/
theorem exists_numberTexts (h : readAll? readItem? (ofText Date.isoFormat.toList) clues cs =
    some (clues', [])) :
    ∃ ys ms ds, ∃ (year : Int) (month day : Nat), NumberText true 4 ys year ∧
      NumberText false 2 ms month ∧ NumberText false 2 ds day ∧
      cs = ys ++ '-' :: (ms ++ '-' :: ds) := by
  rw [ofText_isoFormat] at h
  simp only [readAll?_cons, Option.bind_eq_some_iff] at h
  obtain ⟨⟨_, afterYear⟩, hyear, ⟨_, beforeMonth⟩, hmark, ⟨_, afterMonth⟩, hmonth,
    ⟨_, beforeDay⟩, hmark', ⟨_, afterDay⟩, hday, hend⟩ := h
  cases hend
  obtain ⟨ys, year, hys, rfl, -⟩ := exists_numberText width_year hyear
  obtain ⟨ms, month, hms, rfl, -⟩ := exists_numberText width_month hmonth
  obtain ⟨ds, day, hds, rfl, -⟩ := exists_numberText width_day hday
  obtain ⟨month, rfl⟩ := NumberText.exists_nat hms
  obtain ⟨day, rfl⟩ := NumberText.exists_nat hds
  refine ⟨ys, ms, ds, year, month, day, hys, hms, hds, ?_⟩
  have hfirst := eq_cons_of_readItem?_mark hmark
  have hsecond := eq_cons_of_readItem?_mark hmark'
  dsimp only at hfirst hsecond
  rw [hfirst, hsecond, List.append_nil]

end Layout

namespace Date

open Layout (NumberText)

variable {d : Date} {cs : List Char}

/-- **A loose spelling of a date**: a year, a month and a day as the reader takes them, with hyphens
between. -/
def LooseText (d : Date) (cs : List Char) : Prop :=
  ∃ ys ms ds, NumberText true 4 ys d.year ∧ NumberText false 2 ms d.month ∧
    NumberText false 2 ds d.day ∧ cs = ys ++ '-' :: (ms ++ '-' :: ds)

/-- Numbers with hyphens between are read as the date with these parts, if there is one. -/
theorem read?_isoFormat {ys ms ds : List Char} {year : Int} {month day : Nat}
    (hys : NumberText true 4 ys year) (hms : NumberText false 2 ms month)
    (hds : NumberText false 2 ds day) :
    read? isoFormat.toList (ys ++ '-' :: (ms ++ '-' :: ds)) =
      (ofYmd? year month day).bind Clues.inRange := by
  rw [← Clues.date?_of_parts]
  unfold read?
  rw [Layout.readAll?_isoFormat hys hms hds]
  cases ((Clues.empty.add? .year year).bind (·.add? .month month)).bind (·.add? .day day) <;> rfl

/-- **The standard layout reads loose spellings**, of all dates in the range of years and of no
others. -/
theorem read?_isoFormat_iff_looseText :
    read? isoFormat.toList cs = some d ↔
      (Clues.yearRange.1 ≤ d.year ∧ d.year ≤ Clues.yearRange.2) ∧ LooseText d cs := by
  constructor
  · intro h
    have hread := h
    unfold read? at h
    split at h
    next clues hall =>
      obtain ⟨ys, ms, ds, year, month, day, hys, hms, hds, rfl⟩ := Layout.exists_numberTexts hall
      rw [read?_isoFormat hys hms hds] at hread
      obtain ⟨d', hparts, hrange⟩ := Option.bind_eq_some_iff.1 hread
      obtain ⟨rfl, hyears⟩ := Clues.inRange_eq_some_iff.1 hrange
      obtain ⟨rfl, rfl, rfl⟩ := ofYmd?_eq_some_iff.1 hparts
      exact ⟨hyears, ys, ms, ds, hys, hms, hds, rfl⟩
    next => cases h
  · rintro ⟨hyears, ys, ms, ds, hys, hms, hds, rfl⟩
    rw [read?_isoFormat hys hms hds, ofYmd?_eq_some_iff.2 ⟨rfl, rfl, rfl⟩, Option.bind_some]
    exact Clues.inRange_eq_some_iff.2 ⟨rfl, hyears⟩

end Date

end FormCheck
