import FormCheck.Date.Text
import FormCheck.Double.Numeral
import FormCheck.Text.Blank

/-!
# Numbers in columns

A number that is written with a fixed number of digits, zeros in front if need be, can be read back,
and such numbers are ordered as their digits are ordered as texts.

`is_iso_shaped` asks for a date in such columns.

* `DigitRun`: a text of so many digits and nothing else.
* `DigitRun.lt_iff`: of two runs of one width the smaller number is the smaller text;
  `DigitRun.eq_of_digitsValue`: the number tells the run.
* `Date.digitRun_padded`, `Date.digitsValue_padded`: what padding makes of a number that fits.
* `Date.padded_eq_iff`: padding is the only way to write a number in columns.
-/

namespace FormCheck

/-! ## Digits -/

theorem isDigit_iff {c : Char} : isDigit c = true ↔ 48 ≤ c.toNat ∧ c.toNat ≤ 57 := by
  unfold isDigit
  rw [Bool.and_eq_true, decide_eq_true_eq, decide_eq_true_eq, Char.le_def, Char.le_def,
    UInt32.le_iff_toNat_le, UInt32.le_iff_toNat_le]
  exact Iff.rfl

theorem ne_of_isDigit {c mark : Char} (hc : isDigit c = true) (hmark : isDigit mark = false) :
    c ≠ mark := by
  rintro rfl
  rw [hc] at hmark
  cases hmark

theorem not_isBlank_of_isDigit {c : Char} (h : isDigit c = true) : isBlank c = false := by
  obtain ⟨hlow, hhigh⟩ := isDigit_iff.1 h
  simp only [isBlank, Bool.or_eq_false_iff, Bool.and_eq_false_iff, decide_eq_false_iff_not,
    beq_eq_false_iff_ne, ne_eq]
  omega

theorem digitValue_lt {c : Char} (h : isDigit c = true) : digitValue c < 10 := by
  obtain ⟨hlow, hhigh⟩ := isDigit_iff.1 h
  unfold digitValue
  omega

theorem digitValue_lt_iff {c d : Char} (hc : isDigit c = true) (hd : isDigit d = true) :
    digitValue c < digitValue d ↔ c < d := by
  obtain ⟨hc, -⟩ := isDigit_iff.1 hc
  obtain ⟨hd, -⟩ := isDigit_iff.1 hd
  have hlt : c < d ↔ c.toNat < d.toNat := by
    rw [Char.lt_def, UInt32.lt_iff_toNat_lt]
    exact Iff.rfl
  rw [hlt]
  unfold digitValue
  omega

theorem eq_of_digitValue_eq {c d : Char} (hc : isDigit c = true) (hd : isDigit d = true)
    (h : digitValue c = digitValue d) : c = d := by
  obtain ⟨hc, -⟩ := isDigit_iff.1 hc
  obtain ⟨hd, -⟩ := isDigit_iff.1 hd
  unfold digitValue at h
  exact Char.toNat_inj.1 (by omega)

theorem digitsValue_cons (c : Char) (ds : List Char) :
    digitsValue (c :: ds) = digitValue c * Nat.pow 10 ds.length + digitsValue ds := by
  have happend := digitsValue_append [c] ds
  have hone : digitsValue [c] = digitValue c := by simp [digitsValue]
  rwa [hone] at happend

/-! ## The order of texts -/

/-- Texts that begin with parts of one length are compared by these parts first. -/
theorem lt_append_iff {as bs rest rest' : List Char} (hlength : as.length = bs.length) :
    as ++ rest < bs ++ rest' ↔ as < bs ∨ (as = bs ∧ rest < rest') := by
  induction as generalizing bs with
  | nil =>
    obtain rfl := List.eq_nil_of_length_eq_zero hlength.symm
    simp
  | cons a as ih =>
    cases bs with
    | nil => cases hlength
    | cons b bs =>
      have hrest := ih (Nat.succ.inj hlength)
      rw [List.cons_append, List.cons_append, List.cons_lt_cons_iff, List.cons_lt_cons_iff, hrest,
        List.cons.injEq, or_assoc, and_or_left, and_assoc]

theorem cons_lt_cons_same (c : Char) {rest rest' : List Char} :
    c :: rest < c :: rest' ↔ rest < rest' := by
  have hirrefl : ¬ c < c := fun h => Nat.lt_irrefl c.toNat h
  rw [List.cons_lt_cons_iff, or_iff_right hirrefl, and_iff_right rfl]

/-! ## Runs of digits -/

/-- **A run of digits** of the given width. -/
structure DigitRun (width : Nat) (ds : List Char) : Prop where
  length : ds.length = width
  digit : ∀ c ∈ ds, isDigit c = true

namespace DigitRun

variable {width : Nat} {as bs ds : List Char} {c : Char}

theorem tail (h : DigitRun (width + 1) (c :: ds)) : DigitRun width ds :=
  ⟨Nat.succ.inj h.length, fun d hd => h.digit d (List.mem_cons_of_mem c hd)⟩

theorem head (h : DigitRun width (c :: ds)) : isDigit c = true := h.digit c List.mem_cons_self

theorem digitsValue_lt (h : DigitRun width ds) : digitsValue ds < Nat.pow 10 width := by
  induction ds generalizing width with
  | nil =>
    obtain rfl : 0 = width := h.length
    decide
  | cons c rest ih =>
    obtain rfl : rest.length + 1 = width := h.length
    have hrest := ih h.tail
    have hc := digitValue_lt h.head
    have htens : Nat.pow 10 (rest.length + 1) = 10 * Nat.pow 10 rest.length := Nat.mul_comm _ 10
    have hle : digitValue c * Nat.pow 10 rest.length ≤ 9 * Nat.pow 10 rest.length :=
      Nat.mul_le_mul_right _ (by omega)
    rw [digitsValue_cons, htens]
    omega

/-- What follows a digit weighs less than the digit. -/
theorem weight_lt {m n tens x y : Nat} (h : m < n) (hx : x < tens) :
    m * tens + x < n * tens + y := by
  have hle : m * tens + tens ≤ n * tens := by
    rw [← Nat.succ_mul]
    exact Nat.mul_le_mul_right tens h
  omega

/-- **Runs of one width are ordered as their numbers.** -/
theorem lt_iff (ha : DigitRun width as) (hb : DigitRun width bs) :
    as < bs ↔ digitsValue as < digitsValue bs := by
  induction as generalizing width bs with
  | nil =>
    obtain rfl : 0 = width := ha.length
    obtain rfl := List.eq_nil_of_length_eq_zero hb.length
    exact iff_of_false (List.not_lt_nil _) (Nat.lt_irrefl _)
  | cons c as ih =>
    obtain rfl : as.length + 1 = width := ha.length
    cases bs with
    | nil => cases hb.length
    | cons d bs =>
      have hlength : bs.length = as.length := Nat.succ.inj hb.length
      have has := ha.tail.digitsValue_lt
      have hbs := hb.tail.digitsValue_lt
      rw [List.cons_lt_cons_iff, ih ha.tail hb.tail, digitsValue_cons, digitsValue_cons, hlength,
        ← digitValue_lt_iff ha.head hb.head]
      rcases Nat.lt_trichotomy (digitValue c) (digitValue d) with hlt | heq | hgt
      · exact iff_of_true (Or.inl hlt) (weight_lt hlt has)
      · rw [heq, eq_of_digitValue_eq ha.head hb.head heq, Nat.add_lt_add_iff_left]
        simp
      · refine iff_of_false ?_ (Nat.lt_asymm (weight_lt hgt hbs))
        rintro (hlt | ⟨rfl, -⟩)
        · exact Nat.lt_asymm hlt hgt
        · exact Nat.lt_irrefl _ hgt

/-- **The number tells the run.** -/
theorem eq_of_digitsValue (ha : DigitRun width as) (hb : DigitRun width bs)
    (h : digitsValue as = digitsValue bs) : as = bs := by
  have hab : ¬ as < bs := fun hlt => Nat.ne_of_lt ((ha.lt_iff hb).1 hlt) h
  have hba : ¬ bs < as := fun hlt => Nat.ne_of_lt ((hb.lt_iff ha).1 hlt) h.symm
  exact List.le_antisymm (List.not_lt.1 hba) (List.not_lt.1 hab)

theorem append_lt_append_iff {rest rest' : List Char} (ha : DigitRun width as)
    (hb : DigitRun width bs) : as ++ rest < bs ++ rest' ↔
      digitsValue as < digitsValue bs ∨ (digitsValue as = digitsValue bs ∧ rest < rest') := by
  have hsame : digitsValue as = digitsValue bs ↔ as = bs :=
    ⟨ha.eq_of_digitsValue hb, congrArg digitsValue⟩
  rw [hsame, ← ha.lt_iff hb]
  exact lt_append_iff (ha.length.trans hb.length.symm)

end DigitRun

/-! ## Padding -/

namespace Date

variable {width n : Nat} {ds : List Char}

theorem isDigit_of_mem_toDigits {c : Char} (h : c ∈ Nat.toDigits 10 n) : isDigit c = true := by
  have hdigit := Nat.isDigit_of_mem_toDigits (by decide) (by decide) h
  rw [Char.isDigit, Bool.and_eq_true, decide_eq_true_eq, decide_eq_true_eq] at hdigit
  exact isDigit_iff.2 hdigit

theorem digitsValue_zeros (count : Nat) : digitsValue (List.replicate count '0') = 0 := by
  induction count with
  | zero => rfl
  | succ count ih => rw [List.replicate_succ, digitsValue_cons, ih, digitValue]; simp

theorem digitsValue_toDigits (n : Nat) : digitsValue (Nat.toDigits 10 n) = n :=
  Nat.ofDigitChars_toDigits (by decide) (by decide)

theorem digitsValue_padded (width n : Nat) : digitsValue (padded width n) = n := by
  show digitsValue (List.replicate _ '0' ++ Nat.toDigits 10 n) = n
  rw [digitsValue_append, digitsValue_zeros, digitsValue_toDigits, Nat.zero_mul, Nat.zero_add]

theorem digitRun_padded (hwidth : 0 < width) (hn : n < Nat.pow 10 width) :
    DigitRun width (padded width n) := by
  have hlength : (Nat.toDigits 10 n).length ≤ width :=
    (Nat.length_toDigits_le_iff (by decide) hwidth).2 hn
  refine ⟨?_, fun c hc => ?_⟩
  · show (List.replicate _ '0' ++ Nat.toDigits 10 n).length = width
    rw [List.length_append, List.length_replicate]
    omega
  · rcases List.mem_append.1 hc with hzero | hdigit
    · rw [List.eq_of_mem_replicate hzero]
      rfl
    · exact isDigit_of_mem_toDigits hdigit

/-- **Padding is the only way to write a number in columns.** -/
theorem padded_eq_iff (hwidth : 0 < width) (hn : n < Nat.pow 10 width) :
    padded width n = ds ↔ DigitRun width ds ∧ digitsValue ds = n := by
  have hrun := digitRun_padded hwidth hn
  constructor
  · rintro rfl
    exact ⟨hrun, digitsValue_padded width n⟩
  · rintro ⟨hds, hvalue⟩
    exact hrun.eq_of_digitsValue hds ((digitsValue_padded width n).trans hvalue.symm)

theorem padded_digitsValue (hwidth : 0 < width) (h : DigitRun width ds) :
    padded width (digitsValue ds) = ds :=
  (padded_eq_iff hwidth h.digitsValue_lt).2 ⟨h, rfl⟩

/-! ### Two and four columns -/

theorem digitValue_digitChar (hn : n < 10) : digitValue (Nat.digitChar n) = n := by
  rw [digitValue, Nat.toNat_digitChar_of_lt_ten hn]
  omega

theorem isDigit_digitChar (hn : n < 10) : isDigit (Nat.digitChar n) = true := by
  rw [isDigit_iff, Nat.toNat_digitChar_of_lt_ten hn]
  omega

theorem padded_two (hn : n < 100) :
    padded 2 n = [Nat.digitChar (n / 10), Nat.digitChar (n % 10)] := by
  have htens : n / 10 < 10 := by omega
  have hones : n % 10 < 10 := by omega
  refine (padded_eq_iff (by decide) hn).2 ⟨⟨rfl, ?_⟩, ?_⟩
  · simp [isDigit_digitChar htens, isDigit_digitChar hones]
  · simp only [digitsValue, List.foldl, digitValue_digitChar htens, digitValue_digitChar hones]
    omega

theorem padded_four (hn : n < 10000) :
    padded 4 n = [Nat.digitChar (n / 1000), Nat.digitChar (n / 100 % 10),
      Nat.digitChar (n / 10 % 10), Nat.digitChar (n % 10)] := by
  have hthousands : n / 1000 < 10 := by omega
  have hhundreds : n / 100 % 10 < 10 := by omega
  have htens : n / 10 % 10 < 10 := by omega
  have hones : n % 10 < 10 := by omega
  refine (padded_eq_iff (by decide) hn).2 ⟨⟨rfl, ?_⟩, ?_⟩
  · simp [isDigit_digitChar, hthousands, hhundreds, htens, hones]
  · simp only [digitsValue, List.foldl, digitValue_digitChar hthousands,
      digitValue_digitChar hhundreds, digitValue_digitChar htens, digitValue_digitChar hones]
    omega

end Date

end FormCheck
