import FormCheck.Proofs.Acceptance
import FormCheck.Proofs.Columns
import FormCheck.Proofs.Documents
import FormCheck.Proofs.NearestDoubles

/-!
# Whole numbers and their digits

A number is entered into a field as a number or as a text. A whole number of 64 bits is turned into a
double by one function, the text of its digits is read by another one; both round if there are more
than 53 bits. Here the text is followed through its reader: no digit is lost on the way to rounding,
and what is rounded is the same quotient.

Both functions are branches of `coerce_number`.

* `toList_toString_int`: the text of a whole number.
* `Numeral.read?_of_readSign`, `Numeral.toDouble?_whole`, `Double.ofText?_toString`: what is read from
  it.
* **`Policy.integer_as_digits`**: a whole number and its digits get the same verdict, and stand for the
  same double, which is the nearest one.
-/

namespace FormCheck

/-! ## The text of a whole number -/

/-- The digits of the absolute value, with a minus in front of them if the number is below zero. -/
theorem toList_toString_int (n : Int) :
    (toString n).toList =
      if n < 0 then '-' :: Nat.toDigits 10 n.natAbs else Nat.toDigits 10 n.natAbs := by
  cases n with
  | ofNat k =>
    show k.repr.toList = _
    have hneg : ¬ Int.ofNat k < 0 := Int.not_lt.2 (Int.natCast_nonneg k)
    rw [Nat.toList_repr, if_neg hneg]
    rfl
  | negSucc k =>
    show ("-" ++ k.succ.repr).toList = _
    rw [String.toList_append, Nat.toList_repr, if_pos (Int.negSucc_lt_zero k)]
    rfl

/-! ## Reading it -/

namespace Numeral

theorem spanDigits_digits {ds : List Char} (h : ∀ c ∈ ds, isDigit c = true) :
    spanDigits ds = (ds, []) := by
  have htake : (ds ++ []).takeWhile isDigit = ds ++ [] := List.takeWhile_append_of_pos h
  have hdrop : (ds ++ []).dropWhile isDigit = [] := List.dropWhile_append_of_pos h
  rw [List.append_nil] at htake hdrop
  rw [spanDigits, htake, hdrop]

theorem readSign_digit {c : Char} (hc : isDigit c = true) (cs : List Char) :
    readSign (c :: cs) = (false, c :: cs) := by
  unfold readSign
  split
  next heq => exact absurd (List.cons.inj heq).1 (ne_of_isDigit hc rfl)
  next heq => exact absurd (List.cons.inj heq).1 (ne_of_isDigit hc rfl)
  next => rfl

/-- What follows the sign is read as the whole part of a numeral, if it is a run of digits. -/
theorem read?_of_readSign {negative : Bool} {cs ds : List Char} (hsign : readSign cs = (negative, ds))
    (hsome : ds ≠ []) (hds : ∀ c ∈ ds, isDigit c = true) :
    read? cs = some ⟨negative, digitsValue ds, 0⟩ := by
  have hempty : ds.isEmpty = false := List.isEmpty_eq_false_iff.2 hsome
  simp [read?, hsign, spanDigits_digits hds, hempty, readPower]

/-- **A numeral without a point is rounded as the number of its digits.** -/
theorem toDouble?_whole {negative : Bool} {k : Nat} (hzero : k = 0 → negative = false)
    (h : k < 0x10000000000000000) :
    toDouble? ⟨negative, k, 0⟩ = Double.ofRatio? negative k 1 := by
  unfold toDouble?
  dsimp only
  split
  next hk =>
    subst hk
    rw [hzero rfl]
    decide
  next hk =>
    have hlength : (Nat.toDigits 10 k).length ≤ 20 :=
      (Nat.length_toDigits_le_iff (by decide) (by decide)).2 (Nat.lt_trans h (by decide))
    rw [if_neg (by omega), if_neg (by omega), if_pos (Int.le_refl 0)]
    exact congrArg (fun num => Double.ofRatio? negative num 1) (Nat.mul_one k)

end Numeral

variable {n : Int}

/-- **The digits of a whole number are read as the double of the number.** -/
theorem Double.ofText?_toString (h : n.natAbs < 0x10000000000000000) :
    ofText? (toString n).toList = some (ofInt n) := by
  have hdigits : ∀ c ∈ Nat.toDigits 10 n.natAbs, isDigit c = true := fun _ =>
    Date.isDigit_of_mem_toDigits
  have hread : Numeral.read? (toString n).toList = some ⟨decide (n < 0), n.natAbs, 0⟩ := by
    have hsign : Numeral.readSign (toString n).toList =
        (decide (n < 0), Nat.toDigits 10 n.natAbs) := by
      rw [toList_toString_int]
      by_cases hneg : n < 0
      · rw [if_pos hneg, decide_eq_true hneg]
        rfl
      · rw [if_neg hneg, decide_eq_false hneg]
        obtain ⟨c, cs, hcs⟩ :=
          List.exists_cons_of_ne_nil (Nat.toDigits_ne_nil (n := n.natAbs) (b := 10))
        have hc : isDigit c = true := hdigits c (hcs ▸ List.mem_cons_self)
        rw [hcs, Numeral.readSign_digit hc]
    rw [Numeral.read?_of_readSign hsign Nat.toDigits_ne_nil hdigits, Date.digitsValue_toDigits]
  have hzero : n.natAbs = 0 → decide (n < 0) = false := by
    intro hn
    exact decide_eq_false (by omega)
  rw [ofText?, hread, Option.bind_some, Numeral.toDouble?_whole hzero h, ofRatio?_natAbs h]

/-! ## The same verdict -/

theorem not_isBlank_toString {c : Char} (hc : c ∈ (toString n).toList) : isBlank c = false := by
  have hdigit : ∀ {c}, c ∈ Nat.toDigits 10 n.natAbs → isBlank c = false := fun hc =>
    not_isBlank_of_isDigit (Date.isDigit_of_mem_toDigits hc)
  rw [toList_toString_int] at hc
  split at hc
  · rcases List.mem_cons.1 hc with rfl | hc
    · rfl
    · exact hdigit hc
  · exact hdigit hc

/-- **A whole number is entered as what it is.** -/
theorem Inspection.number?_toString (h : n.natAbs < 0x10000000000000000) :
    number? (.text (toString n)) = some (.ofInt n) := by
  have htrim : Text.trimmed (toString n).toList = (toString n).toList :=
    Text.trimmed_eq_self fun _ => not_isBlank_toString
  show Double.ofText? (Text.trimmed (toString n).toList) = _
  rw [htrim, Double.ofText?_toString h]

theorem toString_int_ne_empty (n : Int) : toString n ≠ "" := by
  intro hempty
  have hchars := toList_toString_int n
  rw [hempty] at hchars
  split at hchars
  · cases hchars
  · exact Nat.toDigits_ne_nil hchars.symm

theorem Json.Integer.natAbs_lt (n : Json.Integer) : n.val.natAbs < 0x10000000000000000 := by
  have hlow := n.le_val
  have hhigh := n.val_lt
  omega

namespace Policy

variable {p : Policy} {r : Requirement}

/-- Of a number only the double that it stands for is inspected. -/
theorem run_inspection_number (hkind : r.kind = .number) (v : Json) :
    (p.inspection r).run v =
      Inspection.runOn .number (checksOf (numberClauses r)) (Inspection.number? v) := by
  rw [inspection, hkind]
  rfl

/-- **Whole numbers and their digits are interchangeable.** Where a number is asked for, a whole number
of 64 bits and the text of its digits get the same verdict, with the same message and the same params:
both are values, and stand for the same double. It is the one nearest to the number; of two that are
as near, the one with the even significand. -/
theorem integer_as_digits (p : Policy) {r : Requirement} (hkind : r.kind = .number)
    (n : Json.Integer) (field : String) :
    (p.checker field r).verdict (.integer n) =
        (p.checker field r).verdict (.text (toString n.val)) ∧
      ∃ x : Double, p.reading? r.kind (.integer n) = some (.number x) ∧
        p.reading? r.kind (.text (toString n.val)) = some (.number x) ∧ x.NearestTo n.val := by
  have hdigits := Inspection.number?_toString n.natAbs_lt
  have hnumber : Inspection.number? (.integer n) = some (.ofInt n.val) := rfl
  constructor
  · refine Checker.verdict_congr ?_ ?_
    · have hsome : (toString n.val).isEmpty = false :=
        Bool.eq_false_iff.2 fun h => toString_int_ne_empty n.val (String.isEmpty_iff.1 h)
      show r.kind.isAbsent (.integer n) = r.kind.isAbsent (.text (toString n.val))
      rw [hkind]
      exact hsome.symm
    · show (p.inspection r).run (.integer n) = (p.inspection r).run (.text (toString n.val))
      rw [run_inspection_number hkind, run_inspection_number hkind, hnumber, hdigits]
  · refine ⟨.ofInt n.val, ?_, ?_, Double.nearestTo_ofInt n.natAbs_lt⟩
    · rw [reading?_number hkind, hnumber, Option.map_some]
    · rw [reading?_number hkind, hdigits, Option.map_some]

end Policy

namespace Sample

/-- A number up to two to the 53rd, from which on not every whole number is a double. -/
def capped : Requirement where
  kind := .number
  maxValue := some (.ofInt 9007199254740992)

/-- The next whole number, half way to the next double. -/
def halfWay : Json.Integer := ⟨9007199254740993, by decide, by decide⟩

end Sample

open Sample in
/-- The number half way to the next double is within the bound that it exceeds, as a number and as a
text. -/
theorem integer_as_digits_halfWay :
    capped.kind = .number ∧
    (policy.checker "count" capped).verdict (.integer halfWay) =
      (policy.checker "count" capped).verdict (.text "9007199254740993") ∧
    ((policy.checker "count" capped).verdict (.integer halfWay)).isAccepted = true ∧
    ∃ x : Double, policy.reading? capped.kind (.integer halfWay) = some (.number x) ∧
      policy.reading? capped.kind (.text "9007199254740993") = some (.number x) ∧
      x.NearestTo 9007199254740993 := by
  have hdigits : toString halfWay.val = "9007199254740993" := by decide +kernel
  obtain ⟨hverdict, hreading⟩ :=
    Policy.integer_as_digits policy (r := capped) rfl halfWay "count"
  rw [hdigits] at hverdict hreading
  exact ⟨rfl, hverdict, by decide +kernel, hreading⟩

end FormCheck
