import FormCheck.Date.Reader

/-!
# Texts that spell no date

Every date has a year, and a year is written in digits: names, halves of the day, offsets and zones
say nothing about it. So a text without digits spells no date, whatever the layout asks for.

So `parse_date` never reads the word `today` of `MIN_DATE_TODAY`, in any `date_format`.

* `Layout.Yearless`: a reading that has found no year and has no digit left to find one in.
* `yearless_of_readItem?` (one item) and `yearless_of_readAll?` (a layout): it stays one.
* **`Date.parse?_eq_none_of_digitless`**: in no format does a text without digits spell a date.
-/

namespace FormCheck

/-! ## Clues without a year -/

/-- The clues to a year. -/
def Clue.ofYear : List Clue := [.year, .century, .yearOfCentury, .isoYear, .isoYearOfCentury]

theorem Clues.date?_eq_none_of_ofYear {clues : Clues}
    (h : ∀ part ∈ Clue.ofYear, clues.get part = none) : clues.date? = none := by
  simp only [Clue.ofYear, List.forall_mem_cons] at h
  obtain ⟨hyear, hcentury, hofCentury, hiso, hisoOfCentury, -⟩ := h
  simp [date?, hyear, hcentury, hofCentury, hiso, hisoOfCentury, meantYear, dateByIsoWeek?]

namespace Layout

/-! ## Reading without digits -/

theorem digits?_eq_none {cs : List Char} (h : ∀ c ∈ cs, isDigit c = false) (max : Option Nat) :
    digits? 1 max cs = none := by
  have hrun : cs.takeWhile isDigit = [] := by
    cases cs with
    | nil => rfl
    | cons c rest => rw [List.takeWhile_cons_of_neg (by simp [h c])]
  unfold digits?
  cases max <;> simp [hrun]

theorem digits?_subset {cs rest : List Char} {min n count : Nat} {max : Option Nat}
    (h : digits? min max cs = some (n, count, rest)) : rest ⊆ cs := by
  unfold digits? at h
  dsimp only at h
  split at h <;> split at h <;> cases h
  all_goals exact (List.drop_sublist _ _).subset

/-- **A reading without a year**: no clue to one has been found, and no digit is left. -/
structure Yearless (state : Clues × List Char) : Prop where
  clues : ∀ part ∈ Clue.ofYear, state.1.get part = none
  rest : ∀ c ∈ state.2, isDigit c = false

namespace Yearless

variable {clues clues' : Clues} {cs rest : List Char}

theorem of_subset (h : Yearless (clues, cs)) (hrest : rest ⊆ cs) : Yearless (clues, rest) :=
  ⟨h.clues, fun c hc => h.rest c (hrest hc)⟩

theorem add (h : Yearless (clues, cs)) (hrest : rest ⊆ cs) {part : Clue} {value : Int}
    (hpart : part ∉ Clue.ofYear) (hadd : clues.add? part value = some clues') :
    Yearless (clues', rest) := by
  refine ⟨fun q hq => ?_, (h.of_subset hrest).rest⟩
  rw [Clues.get_add? hadd, if_neg fun (he : q = part) => hpart (he ▸ hq)]
  exact h.clues q hq

end Yearless

variable {clues : Clues} {cs rest : List Char} {state : Clues × List Char}

theorem readNumber?_eq_none (part : NumberPart) (clues : Clues)
    (h : ∀ c ∈ cs, isDigit c = false) : readNumber? part clues cs = none := by
  have htrimmed : ∀ c ∈ Text.trimmedLeft cs, isDigit c = false :=
    fun c hc => h c (Text.trimmedLeft_subset cs hc)
  have hsigned : ∀ {sign rest}, Text.trimmedLeft cs = sign :: rest →
      ∀ c ∈ rest, isDigit c = false :=
    fun hcs c hc => htrimmed c (hcs ▸ List.mem_cons_of_mem _ hc)
  unfold readNumber?
  dsimp only
  split
  next hminus => simp [digits?_eq_none (hsigned hminus)]
  next hplus => simp [digits?_eq_none (hsigned hplus)]
  next => simp [digits?_eq_none htrimmed]

theorem afterWord?_subset {word : String} (h : afterWord? word cs = some rest) : rest ⊆ cs := by
  unfold afterWord? at h
  dsimp only at h
  split at h
  · cases h
    exact (List.drop_sublist _ _).subset
  · cases h

theorem readName?_subset {names : List (String × String)} {long : Bool} {i : Nat}
    (h : readName? names long cs = some (i, rest)) : rest ⊆ cs := by
  obtain ⟨⟨⟨start, tail⟩, j⟩, -, hname⟩ := List.exists_of_findSome?_eq_some h
  obtain ⟨after, hafter, hrest⟩ := Option.map_eq_some_iff.1 hname
  cases hrest
  have hstart := afterWord?_subset hafter
  cases long with
  | false => exact hstart
  | true =>
    cases htail : afterWord? tail after with
    | none => simpa [htail] using hstart
    | some rest => simpa [htail] using List.Subset.trans (afterWord?_subset htail) hstart

/-! ## Items and layouts -/

theorem yearless_of_readHalfDay? (h : Yearless (clues, cs))
    (hread : readHalfDay? clues cs = some state) : Yearless state := by
  unfold readHalfDay? at hread
  split at hread
  next rest ham =>
    obtain ⟨clues', hadd, rfl⟩ := Option.map_eq_some_iff.1 hread
    exact h.add (afterWord?_subset ham) (by decide) hadd
  next rest _ hpm =>
    obtain ⟨clues', hadd, rfl⟩ := Option.map_eq_some_iff.1 hread
    exact h.add (afterWord?_subset hpm) (by decide) hadd
  next => cases hread

/-- A fraction is left out, since no digit follows the point. -/
theorem yearless_of_readFraction? (h : Yearless (clues, cs))
    (hread : readFraction? clues cs = some state) : Yearless state := by
  unfold readFraction? at hread
  split at hread
  next rest =>
    have hrest : ∀ c ∈ rest, isDigit c = false := fun c hc => h.rest c (List.mem_cons_of_mem _ hc)
    simp [digits?_eq_none hrest] at hread
  next =>
    cases hread
    exact h

/-- An offset is the letter, since no digit follows a sign. -/
theorem yearless_of_readOffset? {zulu hoursOnly : Bool} (h : Yearless (clues, cs))
    (hread : readOffset? zulu hoursOnly clues cs = some state) : Yearless state := by
  unfold readOffset? at hread
  split at hread
  next rest =>
    obtain ⟨clues', hadd, rfl⟩ := Option.map_eq_some_iff.1 hread
    exact h.add (List.subset_cons_self _ _) (by decide) hadd
  next rest =>
    obtain ⟨clues', hadd, rfl⟩ := Option.map_eq_some_iff.1 hread
    exact h.add (List.subset_cons_self _ _) (by decide) hadd
  next sign rest _ _ =>
    split at hread
    · split at hread
      next h₁ h₂ rest => simp [h.rest h₁ (by simp)] at hread
      next => cases hread
    · cases hread
  next => cases hread

/-- A whole timestamp begins with the number of the year. -/
theorem readTimestamp?_eq_none (clues : Clues) (h : ∀ c ∈ cs, isDigit c = false) :
    readTimestamp? clues cs = none := by
  simp [readTimestamp?, timestampDate, readAll?, readSimple?, readNumber?_eq_none .year clues h]

/-- **One item**: without digits a reading finds no year. -/
theorem yearless_of_readItem? {item : Item} (h : Yearless (clues, cs))
    (hread : readItem? item clues cs = some state) : Yearless state := by
  unfold readItem? at hread
  split at hread
  · rw [readTimestamp?_eq_none clues h.rest] at hread
    cases hread
  cases item with
  | literal mark =>
    simp only [readSimple?] at hread
    split at hread <;> cases hread
    exact h.of_subset (List.drop_sublist _ _).subset
  | blanks =>
    cases hread
    exact h.of_subset (Text.trimmedLeft_subset cs)
  | number part => simp [readSimple?, readNumber?_eq_none part clues h.rest] at hread
  | monthName long =>
    simp only [readSimple?, Option.bind_eq_bind, Option.bind_eq_some_iff] at hread
    obtain ⟨⟨i, rest⟩, hname, clues', hadd, hstate⟩ := hread
    cases hstate
    exact h.add (readName?_subset hname) (by decide) hadd
  | weekdayName long =>
    simp only [readSimple?, Option.bind_eq_bind, Option.bind_eq_some_iff] at hread
    obtain ⟨⟨i, rest⟩, hname, clues', hadd, hstate⟩ := hread
    cases hstate
    exact h.add (readName?_subset hname) (by decide) hadd
  | halfDay => exact yearless_of_readHalfDay? h hread
  | fraction => exact yearless_of_readFraction? h hread
  | fractionDigits count =>
    simp only [readSimple?, Option.bind_eq_bind, Option.bind_eq_some_iff] at hread
    obtain ⟨⟨n, _, rest⟩, hdigits, clues', hadd, hstate⟩ := hread
    cases hstate
    exact h.add (digits?_subset hdigits) (by decide) hadd
  | zoneName =>
    cases hread
    exact h.of_subset (List.dropWhile_sublist _).subset
  | offset lenient => exact yearless_of_readOffset? h hread
  | timestampText => cases hread
  | invalid => cases hread

/-- **A layout**: without digits a reading finds no year. -/
theorem yearless_of_readAll? {items : List Item} {clues : Clues} {cs : List Char}
    (h : Yearless (clues, cs)) (hread : readAll? readItem? items clues cs = some state) :
    Yearless state := by
  induction items generalizing clues cs with
  | nil =>
    cases hread
    exact h
  | cons item items ih =>
    unfold readAll? at hread
    split at hread
    next => cases hread
    next clues' rest hitem => exact ih (yearless_of_readItem? h hitem) hread

end Layout

/-- **A text without digits spells no date**, in any format. -/
theorem Date.parse?_eq_none_of_digitless {text : String}
    (h : ∀ c ∈ text.toList, isDigit c = false) (format : String) :
    Date.parse? format text = none := by
  unfold parse?
  dsimp only
  split
  · rfl
  unfold read?
  split
  next clues hread =>
    have hstart : Layout.Yearless (Clues.empty, Text.trimmed text.toList) :=
      ⟨fun _ _ => rfl, fun c hc => h c (Text.trimmed_subset _ hc)⟩
    exact Clues.date?_eq_none_of_ofYear (Layout.yearless_of_readAll? hstart hread).clues
  next => rfl

end FormCheck
