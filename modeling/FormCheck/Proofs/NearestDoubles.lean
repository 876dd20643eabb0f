import FormCheck.Double.Rounding

/-!
# Quotients are rounded to the nearest double

Absolute values are compared as natural numbers, in units of the smallest positive double: a double
is `magnitude` of them, and the number 1 is `scale` of them. A quotient `num / den` is as far from a
double as `num * scale` is from `magnitude * den`, up to the factor `den`, so that no fractions are
needed.

Whole numbers and numerals are rounded in this way by `coerce_number`.

* `roundDiv_nearest`, `roundDiv_even_of_tie`: the rounded integer quotient is the nearest integer, and
  even if another one is as near.
* `Double.exists_nearestRank`: the rank of a quotient is made of the rounded quotient by a power of two
  that leaves 53 bits of it.
* `Double.magnitude_of_rank`, `Double.magnitude_grid`: what such a rank stands for, and where all other
  doubles are: on the grid of this power of two, or below 53 bits of it.
* **`Double.nearest_ofRatio?`**: no double is nearer to the quotient, and if another one is as near,
  the significand is even.
-/

namespace FormCheck

/-! ## Rounded integer quotients -/

section

variable {n d k : Nat}

theorem mul_add_le_of_lt (d : Nat) {j k : Nat} (h : j < k) : j * d + d ≤ k * d := by
  have hle := Nat.mul_le_mul_right d h
  rwa [Nat.succ_mul] at hle

/-- **No multiple of the divisor is nearer** than the one that rounding finds. -/
theorem roundDiv_nearest (hd : 0 < d) (k : Nat) :
    ((n : Int) - (roundDiv n d * d : Nat)).natAbs ≤ ((n : Int) - (k * d : Nat)).natAbs := by
  obtain ⟨hlow, hhigh⟩ := roundDiv_bounds n hd
  rw [Nat.add_mul, Nat.mul_assoc] at hlow
  rcases Nat.lt_trichotomy k (roundDiv n d) with hlt | rfl | hgt
  · have hstep := mul_add_le_of_lt d hlt
    omega
  · exact Nat.le_refl _
  · have hstep := mul_add_le_of_lt d hgt
    omega

theorem le_roundDiv (hd : 0 < d) (h : k * d ≤ n) : k ≤ roundDiv n d := by
  have hnearest := roundDiv_nearest (n := n) hd k
  refine Nat.le_of_not_lt fun hlt => ?_
  have hstep := mul_add_le_of_lt d hlt
  omega

theorem roundDiv_le (hd : 0 < d) (h : n ≤ k * d) : roundDiv n d ≤ k := by
  have hnearest := roundDiv_nearest (n := n) hd k
  refine Nat.le_of_not_lt fun hlt => ?_
  have hstep := mul_add_le_of_lt d hlt
  omega

/-- What lies below a number is farther away than the number, and so than anything nearer. -/
theorem lt_of_nearest {a b c : Nat}
    (hnearest : ((n : Int) - a).natAbs ≤ ((n : Int) - b).natAbs) (hb : b ≤ n) (hc : c < b) :
    ((n : Int) - a).natAbs < ((n : Int) - c).natAbs := by
  omega

/-- Half way between two integers the even one is taken. -/
theorem roundDiv_even (hd : 0 < d)
    (hhalf : 2 * n = 2 * (roundDiv n d * d) + d ∨ 2 * (roundDiv n d * d) = 2 * n + d) :
    roundDiv n d % 2 = 0 := by
  have hm := Nat.div_add_mod n d
  have hr := Nat.mod_lt n hd
  rw [Nat.mul_comm] at hm
  unfold roundDiv at hhalf ⊢
  dsimp only at hhalf ⊢
  generalize n / d = q at *
  generalize n % d = r at *
  split at hhalf
  next => omega
  next =>
    split at hhalf
    next =>
      have hstep : (q + 1) * d = q * d + d := Nat.succ_mul q d
      omega
    next hlow hhigh =>
      rw [if_neg hlow, if_neg hhigh]
      omega

/-- **A tie goes to the even integer.** -/
theorem roundDiv_even_of_tie (hd : 0 < d) (hk : k ≠ roundDiv n d)
    (htie : ((n : Int) - (roundDiv n d * d : Nat)).natAbs = ((n : Int) - (k * d : Nat)).natAbs) :
    roundDiv n d % 2 = 0 := by
  obtain ⟨hlow, hhigh⟩ := roundDiv_bounds n hd
  rw [Nat.add_mul, Nat.mul_assoc] at hlow
  refine roundDiv_even hd ?_
  rcases Nat.lt_or_gt_of_ne hk with hlt | hgt
  · have hstep := mul_add_le_of_lt d hlt
    omega
  · have hstep := mul_add_le_of_lt d hgt
    omega

theorem roundDiv_scale (n d : Nat) {c : Nat} (hc : 0 < c) :
    roundDiv (n * c) (d * c) = roundDiv n d := by
  have hlow : 2 * (n % d * c) < d * c ↔ 2 * (n % d) < d := by
    rw [← Nat.mul_assoc, Nat.mul_lt_mul_right hc]
  have hhigh : d * c < 2 * (n % d * c) ↔ d < 2 * (n % d) := by
    rw [← Nat.mul_assoc, Nat.mul_lt_mul_right hc]
  unfold roundDiv
  dsimp only
  rw [Nat.mul_div_mul_right _ _ hc, Nat.mul_mod_mul_right]
  simp only [hlow, hhigh]

end

namespace Double

/-! ## Powers of two, as the definitions write them -/

theorem twoPow_add (a b : Nat) : Nat.pow 2 (a + b) = Nat.pow 2 a * Nat.pow 2 b := Nat.pow_add 2 a b

theorem twoPow_pos (a : Nat) : 0 < Nat.pow 2 a := Nat.two_pow_pos a

theorem twoPow_le {a b : Nat} (h : a ≤ b) : Nat.pow 2 a ≤ Nat.pow 2 b :=
  Nat.pow_le_pow_right (by decide) h

/-- A comparison of multiples of powers of two only depends on the difference of the exponents. -/
theorem mul_twoPow_le_iff (m n a b c : Nat) :
    m * Nat.pow 2 (a + c) ≤ n * Nat.pow 2 (b + c) ↔ m * Nat.pow 2 a ≤ n * Nat.pow 2 b := by
  rw [twoPow_add, twoPow_add, ← Nat.mul_assoc, ← Nat.mul_assoc, Nat.mul_le_mul_right_iff (twoPow_pos c)]

/-- Numbers of different lengths are told apart by their leading bits. -/
theorem mul_twoPow_lt {m n a b : Nat} (hn : 0 < n) (h : m.log2 + 1 + a ≤ n.log2 + b) :
    m * Nat.pow 2 a < n * Nat.pow 2 b := by
  have hupper : m < Nat.pow 2 (m.log2 + 1) := Nat.lt_log2_self
  have hlower : Nat.pow 2 n.log2 ≤ n := Nat.log2_self_le (Nat.ne_of_gt hn)
  calc m * Nat.pow 2 a < Nat.pow 2 (m.log2 + 1) * Nat.pow 2 a :=
        Nat.mul_lt_mul_of_pos_right hupper (twoPow_pos a)
    _ = Nat.pow 2 (m.log2 + 1 + a) := (twoPow_add _ _).symm
    _ ≤ Nat.pow 2 (n.log2 + b) := twoPow_le h
    _ = Nat.pow 2 n.log2 * Nat.pow 2 b := twoPow_add _ _
    _ ≤ n * Nat.pow 2 b := Nat.mul_le_mul_right _ hlower

/-! ## The rank of a quotient -/

/-- The smallest positive double is two to this negative power. -/
@[irreducible] def depth : Nat := 1074

/-- The number 1 in units of the smallest positive double. -/
def scale : Nat := Nat.pow 2 depth

theorem depth_eq : depth = 1074 := by rw [depth]

theorem scale_eq {a : Nat} (h : a = depth) : scale = Nat.pow 2 a := by rw [h, scale]

theorem leadingBit_mul (den e : Nat) :
    leadingBit * (den * Nat.pow 2 e) = den * Nat.pow 2 (e + 52) := by
  have hbit : leadingBit = Nat.pow 2 52 := rfl
  rw [hbit, twoPow_add, Nat.mul_comm, Nat.mul_assoc]

theorem two_mul_leadingBit_mul (den e : Nat) :
    2 * (leadingBit * (den * Nat.pow 2 e)) = den * Nat.pow 2 (e + 53) := by
  have hstep : Nat.pow 2 (e + 53) = Nat.pow 2 (e + 52) * 2 := rfl
  rw [leadingBit_mul, hstep, Nat.mul_comm, Nat.mul_assoc]

section

variable {num den : Nat}

/-- Whether a quotient reaches a power of two, said without fractions. -/
theorem reached_eq (num den : Nat) (top : Int) :
    (if 0 ≤ top then decide (den <<< top.toNat ≤ num) else decide (den ≤ num <<< (-top).toNat)) =
      decide (den * Nat.pow 2 top.toNat ≤ num * Nat.pow 2 (-top).toNat) := by
  by_cases htop : 0 ≤ top
  · have hzero : (-top).toNat = 0 := by omega
    rw [if_pos htop, Nat.shiftLeft_eq, hzero]
    exact congrArg (fun n => decide (_ ≤ n)) (Nat.mul_one num).symm
  · have hzero : top.toNat = 0 := by omega
    rw [if_neg htop, Nat.shiftLeft_eq, hzero]
    exact congrArg (fun n => decide (n ≤ _)) (Nat.mul_one den).symm

/-- The quotient by a power of two, in units of the smallest positive double. -/
theorem roundDiv_shift (num den : Nat) {e : Int} {k : Nat} (hk : (k : Int) = e + depth) :
    (if 0 ≤ e then roundDiv num (den <<< e.toNat) else roundDiv (num <<< (-e).toNat) den) =
      roundDiv (num * scale) (den * Nat.pow 2 k) := by
  by_cases hpos : 0 ≤ e
  · have hsum : k = e.toNat + depth := by omega
    rw [if_pos hpos, hsum, twoPow_add, ← Nat.mul_assoc, Nat.shiftLeft_eq, scale]
    exact (roundDiv_scale num _ (twoPow_pos depth)).symm
  · have hsum : scale = Nat.pow 2 (-e).toNat * Nat.pow 2 k := by
      rw [← twoPow_add]
      exact scale_eq (by omega)
    rw [if_neg hpos, hsum, ← Nat.mul_assoc, Nat.shiftLeft_eq]
    exact (roundDiv_scale _ den (twoPow_pos k)).symm

/-- A quotient that reaches the power of two has its leading bit there. -/
theorem bits_of_reached (hden : 0 < den) {top : Int} {e : Nat}
    (htop : top = (num.log2 : Int) - den.log2)
    (hreached : den * Nat.pow 2 top.toNat ≤ num * Nat.pow 2 (-top).toNat)
    (he : (e : Int) = max (-(depth : Int)) (top - 52) + depth) :
    num * scale < den * Nat.pow 2 (e + 53) ∧ (e = 0 ∨ den * Nat.pow 2 (e + 52) ≤ num * scale) := by
  refine ⟨mul_twoPow_lt hden (by omega), ?_⟩
  by_cases hzero : e = 0
  · exact .inl hzero
  · obtain ⟨c, hc⟩ : ∃ c, (-top).toNat + c = depth := ⟨depth - (-top).toNat, by omega⟩
    have hsum : e + 52 = top.toNat + c := by omega
    rw [hsum, scale_eq hc, mul_twoPow_le_iff]
    exact .inr hreached

theorem bits_of_not_reached (hnum : 0 < num) (hden : 0 < den) {top : Int} {e : Nat}
    (htop : top = (num.log2 : Int) - den.log2)
    (hbelow : ¬ den * Nat.pow 2 top.toNat ≤ num * Nat.pow 2 (-top).toNat)
    (he : (e : Int) = max (-(depth : Int)) (top - 53) + depth) :
    num * scale < den * Nat.pow 2 (e + 53) ∧ (e = 0 ∨ den * Nat.pow 2 (e + 52) ≤ num * scale) := by
  constructor
  · by_cases hsmall : top < -(depth : Int)
    · exact mul_twoPow_lt hden (by omega)
    · obtain ⟨c, hc⟩ : ∃ c, (-top).toNat + c = depth := ⟨depth - (-top).toNat, by omega⟩
      have hle : den * Nat.pow 2 (top.toNat + c) ≤ den * Nat.pow 2 (e + 53) :=
        Nat.mul_le_mul_left den (twoPow_le (by omega))
      rw [← mul_twoPow_le_iff _ _ _ _ c, Nat.not_le, ← scale_eq hc] at hbelow
      exact Nat.lt_of_lt_of_le hbelow hle
  · by_cases hzero : e = 0
    · exact .inl hzero
    · exact .inr (Nat.le_of_lt (mul_twoPow_lt hnum (by omega)))

/-- **The rank of a quotient** is made of the quotient by a power of two, rounded. The power is the
largest one that leaves 53 bits of the quotient, unless that is below the smallest one. -/
theorem exists_nearestRank (hnum : 0 < num) (hden : 0 < den) :
    ∃ e, nearestRank num den = e * leadingBit + roundDiv (num * scale) (den * Nat.pow 2 e) ∧
      roundDiv (num * scale) (den * Nat.pow 2 e) ≤ 2 * leadingBit ∧
      (e = 0 ∨ leadingBit * (den * Nat.pow 2 e) ≤ num * scale) := by
  unfold nearestRank
  rw [if_neg (Nat.ne_of_gt hnum)]
  extract_lets top reached e m
  obtain ⟨k, hk⟩ : ∃ k : Nat, (k : Int) = e + depth := by
    have hlow : -1074 ≤ e := Int.le_max_left _ _
    exact ⟨(e + depth).toNat, by rw [depth_eq]; omega⟩
  have hrank : (e + 1074).toNat = k := by
    rw [depth_eq] at hk
    omega
  have hm : m = roundDiv (num * scale) (den * Nat.pow 2 k) := roundDiv_shift num den hk
  have hreached : reached =
      decide (den * Nat.pow 2 top.toNat ≤ num * Nat.pow 2 (-top).toNat) := reached_eq num den top
  have hbits : num * scale < den * Nat.pow 2 (k + 53) ∧
      (k = 0 ∨ den * Nat.pow 2 (k + 52) ≤ num * scale) := by
    cases hr : reached with
    | true =>
      have he : e = max (-(depth : Int)) (top - 52) := by
        simp only [e, hr, depth_eq]
        rfl
      rw [hreached, decide_eq_true_eq] at hr
      exact bits_of_reached hden rfl hr (he ▸ hk)
    | false =>
      have he : e = max (-(depth : Int)) (top - 53) := by
        simp only [e, hr, depth_eq]
        rfl
      rw [hreached, decide_eq_false_iff_not] at hr
      exact bits_of_not_reached hnum hden rfl hr (he ▸ hk)
  obtain ⟨hupper, hlower⟩ := hbits
  rw [← two_mul_leadingBit_mul, ← Nat.mul_assoc] at hupper
  refine ⟨k, by rw [hrank, hm], ?_, by rwa [leadingBit_mul]⟩
  exact roundDiv_le (Nat.mul_pos hden (twoPow_pos k)) (Nat.le_of_lt hupper)

end

/-! ## The grid of doubles -/

/-- The absolute value in units of the smallest positive double. -/
def magnitude (x : Double) : Nat := x.significand * Nat.pow 2 (x.exponent + depth).toNat

variable {x y : Double} {e m : Nat}

theorem magnitude_of_small (h : x.rank < leadingBit) :
    x.magnitude = x.rank ∧ x.significand = x.rank := by
  have hsignificand : x.significand = x.rank := if_pos h
  have hexponent : (x.exponent + depth).toNat = 0 := by
    rw [exponent, if_pos h, depth_eq]
    rfl
  rw [magnitude, hsignificand, hexponent]
  exact ⟨Nat.mul_one _, rfl⟩

/-- From the smallest number with a leading bit on, the rank is the power of two and the rest of the
significand. -/
theorem magnitude_of_rest {rest : Nat} (hrest : rest < leadingBit)
    (hrank : x.rank = (e + 1) * leadingBit + rest) :
    x.magnitude = (leadingBit + rest) * Nat.pow 2 e ∧ x.significand = leadingBit + rest := by
  have hlarge : ¬ x.rank < leadingBit := by
    rw [hrank, Nat.succ_mul]
    omega
  have hmod : x.rank % leadingBit = rest := by
    rw [hrank, Nat.mul_comm, Nat.mul_add_mod, Nat.mod_eq_of_lt hrest]
  have hdiv : x.rank / leadingBit = e + 1 := by
    rw [hrank, Nat.mul_comm, Nat.mul_add_div (by decide), Nat.div_eq_of_lt hrest, Nat.add_zero]
  have hsignificand : x.significand = leadingBit + rest := by
    rw [significand, if_neg hlarge, hmod]
  have hexponent : (x.exponent + depth).toNat = e := by
    rw [exponent, if_neg hlarge, hdiv, depth_eq]
    omega
  rw [magnitude, hsignificand, hexponent]
  exact ⟨rfl, rfl⟩

/-- **What a rank stands for** that is made of a power of two and a rounded number of 53 bits. Rounding
up may have reached the next power of two. -/
theorem magnitude_of_rank (hrank : x.rank = e * leadingBit + m) (hlow : e = 0 ∨ leadingBit ≤ m)
    (hhigh : m ≤ 2 * leadingBit) :
    x.magnitude = m * Nat.pow 2 e ∧ (m % 2 = 0 → x.significand % 2 = 0) := by
  by_cases hsmall : m < leadingBit
  · obtain rfl : e = 0 := hlow.resolve_right (Nat.not_le.2 hsmall)
    rw [Nat.zero_mul, Nat.zero_add] at hrank
    obtain ⟨hmagnitude, hsignificand⟩ := magnitude_of_small (hrank ▸ hsmall)
    rw [hmagnitude, hsignificand, hrank]
    exact ⟨(Nat.mul_one m).symm, id⟩
  by_cases htop : m = 2 * leadingBit
  · have hrest : x.rank = (e + 1 + 1) * leadingBit + 0 := by
      rw [hrank, htop, Nat.succ_mul (e + 1), Nat.succ_mul e, Nat.add_zero, Nat.add_assoc,
        ← Nat.two_mul]
    obtain ⟨hmagnitude, hsignificand⟩ := magnitude_of_rest (by decide) hrest
    have hstep : Nat.pow 2 (e + 1) = Nat.pow 2 e * 2 := rfl
    rw [hmagnitude, hsignificand, htop, hstep, Nat.add_zero, Nat.mul_comm 2, Nat.mul_assoc,
      Nat.mul_comm 2]
    exact ⟨rfl, fun _ => rfl⟩
  · obtain ⟨rest, rfl⟩ := Nat.exists_eq_add_of_le (Nat.not_lt.1 hsmall)
    have hrest : x.rank = (e + 1) * leadingBit + rest := by
      rw [hrank, Nat.succ_mul]
      omega
    obtain ⟨hmagnitude, hsignificand⟩ := magnitude_of_rest (by omega) hrest
    rw [hmagnitude, hsignificand]
    exact ⟨rfl, id⟩

/-- **The grid of doubles**: a double is a multiple of a power of two, or below 53 bits of it. -/
theorem magnitude_grid (y : Double) (e : Nat) :
    (∃ k, y.magnitude = k * Nat.pow 2 e) ∨
      (0 < e ∧ y.magnitude < leadingBit * Nat.pow 2 e) := by
  rcases Nat.eq_zero_or_pos e with rfl | he
  · exact .inl ⟨y.magnitude, (Nat.mul_one _).symm⟩
  by_cases hsmall : y.rank < leadingBit
  · obtain ⟨hmagnitude, -⟩ := magnitude_of_small hsmall
    rw [hmagnitude]
    exact .inr ⟨he, Nat.lt_of_lt_of_le hsmall (Nat.le_mul_of_pos_right _ (twoPow_pos e))⟩
  obtain ⟨f, hf⟩ : ∃ f, y.rank / leadingBit = f + 1 :=
    Nat.exists_eq_add_one.2 (Nat.div_pos (Nat.not_lt.1 hsmall) (by decide))
  have hrest : y.rank % leadingBit < leadingBit := Nat.mod_lt _ (by decide)
  have hrank : y.rank = (f + 1) * leadingBit + y.rank % leadingBit := by
    rw [← hf, Nat.mul_comm, Nat.div_add_mod]
  obtain ⟨hmagnitude, -⟩ := magnitude_of_rest hrest hrank
  rw [hmagnitude]
  by_cases hfine : f < e
  · refine .inr ⟨he, ?_⟩
    calc (leadingBit + y.rank % leadingBit) * Nat.pow 2 f
        < (leadingBit + leadingBit) * Nat.pow 2 f :=
          Nat.mul_lt_mul_of_pos_right (Nat.add_lt_add_left hrest _) (twoPow_pos f)
      _ = leadingBit * Nat.pow 2 (f + 1) := by
          rw [twoPow_add f 1, ← Nat.two_mul, Nat.mul_comm 2, Nat.mul_assoc, Nat.mul_comm 2]
      _ ≤ leadingBit * Nat.pow 2 e := Nat.mul_le_mul_left _ (twoPow_le hfine)
  · obtain ⟨g, rfl⟩ := Nat.exists_eq_add_of_le (Nat.not_lt.1 hfine)
    refine .inl ⟨(leadingBit + y.rank % leadingBit) * Nat.pow 2 g, ?_⟩
    rw [twoPow_add, Nat.mul_assoc, Nat.mul_comm (Nat.pow 2 e)]

/-! ## The nearest double -/

/-- How far a double is from a quotient, in units of the smallest positive double and times the
denominator. -/
def gap (num den : Nat) (x : Double) : Nat :=
  ((num * scale : Nat) - (x.magnitude * den : Nat) : Int).natAbs

theorem parts_of_ofRatio? {negative : Bool} {num den : Nat}
    (h : ofRatio? negative num den = some x) :
    x.negative = negative ∧ x.rank = nearestRank num den := by
  unfold ofRatio? at h
  split at h
  · cases h
    exact ⟨rfl, rfl⟩
  · cases h

/-- **The double of a quotient is the nearest one**, and if another number is as near, its significand
is even. -/
theorem nearest_ofRatio? {negative : Bool} {num den : Nat} (hden : 0 < den)
    (h : ofRatio? negative num den = some x) (y : Double) :
    gap num den x ≤ gap num den y ∧
      (gap num den y = gap num den x → y.magnitude ≠ x.magnitude → x.significand % 2 = 0) := by
  obtain ⟨-, hrank⟩ := parts_of_ofRatio? h
  rcases Nat.eq_zero_or_pos num with rfl | hnum
  · have hzero : nearestRank 0 den = 0 := rfl
    rw [hzero] at hrank
    obtain ⟨hmagnitude, hsignificand⟩ := magnitude_of_small (hrank ▸ (by decide : 0 < leadingBit))
    rw [hsignificand, hrank]
    simp [gap, hmagnitude, hrank]
  obtain ⟨e, hnearest, hupper, hlower⟩ := exists_nearestRank hnum hden
  have hunit : 0 < den * Nat.pow 2 e := Nat.mul_pos hden (twoPow_pos e)
  have hmul : ∀ k, k * Nat.pow 2 e * den = k * (den * Nat.pow 2 e) := fun k => by
    rw [Nat.mul_assoc, Nat.mul_comm (Nat.pow 2 e)]
  obtain ⟨hmagnitude, heven⟩ :=
    magnitude_of_rank (hrank.trans hnearest) (hlower.imp_right (le_roundDiv hunit)) hupper
  unfold gap
  rw [hmagnitude, hmul]
  rcases magnitude_grid y e with ⟨k, hk⟩ | ⟨he, hbelow⟩
  · rw [hk, hmul]
    refine ⟨roundDiv_nearest hunit k, fun htie hne => heven (roundDiv_even_of_tie hunit ?_ htie.symm)⟩
    rintro rfl
    exact hne rfl
  · -- below 53 bits of the unit the leading bit itself is nearer, and it is on the grid
    have hle : leadingBit * (den * Nat.pow 2 e) ≤ num * scale :=
      hlower.resolve_left (Nat.ne_of_gt he)
    have hlt : y.magnitude * den < leadingBit * (den * Nat.pow 2 e) := by
      rw [← hmul]
      exact Nat.mul_lt_mul_of_pos_right hbelow hden
    have hfar := lt_of_nearest (roundDiv_nearest hunit leadingBit) hle hlt
    exact ⟨Nat.le_of_lt hfar, fun htie => absurd htie (Nat.ne_of_gt hfar)⟩

/-! ## Integers -/

/-- The number in units of the smallest positive double. -/
def value (x : Double) : Int := if x.negative then -(x.magnitude : Int) else x.magnitude

/-- How far a double is from an integer, in units of the smallest positive double. -/
def distance (x : Double) (n : Int) : Nat := (x.value - n * scale).natAbs

/-- **A double nearest to an integer**: none is nearer, and if another number is as near, the
significand is even. -/
structure NearestTo (x : Double) (n : Int) : Prop where
  nearest : ∀ y : Double, x.distance n ≤ y.distance n
  even : ∀ y : Double, y.distance n = x.distance n → y.value ≠ x.value → x.significand % 2 = 0

variable {n : Int}

theorem mul_scale_eq (n : Int) :
    n * scale = if n < 0 then -((n.natAbs * scale : Nat) : Int) else (n.natAbs * scale : Nat) := by
  split
  next hneg =>
    rw [Int.natCast_mul, ← Int.neg_mul, Int.ofNat_natAbs_of_nonpos (Int.le_of_lt hneg), Int.neg_neg]
  next hpos => rw [Int.natCast_mul, Int.natAbs_of_nonneg (Int.not_lt.1 hpos)]

/-- On the side of the integer the distance is that of the absolute values. -/
theorem distance_of_same (h : x.negative = decide (n < 0)) :
    x.distance n = gap n.natAbs 1 x := by
  unfold distance value gap
  rw [mul_scale_eq, h, Nat.mul_one]
  by_cases hneg : n < 0
  · rw [if_pos hneg, if_pos (decide_eq_true hneg)]
    omega
  · rw [if_neg hneg, if_neg (by rw [decide_eq_true_eq]; exact hneg)]
    omega

theorem distance_of_opposite (h : x.negative ≠ decide (n < 0)) :
    x.distance n = n.natAbs * scale + x.magnitude := by
  unfold distance value
  rw [mul_scale_eq]
  by_cases hneg : n < 0
  · rw [decide_eq_true hneg] at h
    rw [if_pos hneg, if_neg h]
    omega
  · rw [decide_eq_false hneg] at h
    rw [if_neg hneg, if_pos (eq_true_of_ne_false h)]
    omega

/-- **Integers of 64 bits are in the finite range.** -/
theorem nearestRank_lt {k : Nat} (h : k < 0x10000000000000000) : nearestRank k 1 < rankBound := by
  rcases Nat.eq_zero_or_pos k with rfl | hk
  · decide
  obtain ⟨e, hnearest, hupper, hlower⟩ := exists_nearestRank hk Nat.one_pos
  have he : e ≤ 1085 := by
    refine Nat.le_of_not_lt fun hlarge => ?_
    have hle : leadingBit * (1 * Nat.pow 2 e) ≤ k * scale := hlower.resolve_left (by omega)
    have hbits : k < Nat.pow 2 64 := h
    have hlt : k * scale < Nat.pow 2 (64 + depth) := by
      rw [twoPow_add]
      exact Nat.mul_lt_mul_of_pos_right hbits (twoPow_pos depth)
    have hpow : Nat.pow 2 (64 + depth) ≤ Nat.pow 2 (e + 52) := twoPow_le (by rw [depth_eq]; omega)
    rw [leadingBit_mul, Nat.one_mul] at hle
    omega
  have hbit : e * leadingBit ≤ 1085 * leadingBit := Nat.mul_le_mul_right _ he
  have hpos : 0 < leadingBit := by decide
  rw [hnearest, rankBound]
  omega

theorem ofRatio?_natAbs (h : n.natAbs < 0x10000000000000000) :
    ofRatio? (decide (n < 0)) n.natAbs 1 = some (ofInt n) := by
  have hsome : ofRatio? (decide (n < 0)) n.natAbs 1 =
      some ⟨decide (n < 0), nearestRank n.natAbs 1, nearestRank_lt h⟩ := dif_pos (nearestRank_lt h)
  rw [ofInt, hsome, Option.getD_some]

/-- **The double of an integer of 64 bits is the nearest one.** A double on the other side of zero is
no nearer than zero, which is on both sides. -/
theorem nearestTo_ofInt (h : n.natAbs < 0x10000000000000000) : (ofInt n).NearestTo n := by
  have hsome := ofRatio?_natAbs h
  obtain ⟨hsign, -⟩ := parts_of_ofRatio? hsome
  have hnear := nearest_ofRatio? Nat.one_pos hsome
  have hzero : (zero false).magnitude = 0 := (magnitude_of_small (by decide)).1
  have hgap : gap n.natAbs 1 (zero false) = n.natAbs * scale := by
    rw [gap, hzero]
    omega
  have hle : gap n.natAbs 1 (ofInt n) ≤ n.natAbs * scale := hgap ▸ (hnear (zero false)).1
  refine ⟨fun y => ?_, fun y htie hne => ?_⟩
  · rw [distance_of_same hsign]
    by_cases hy : y.negative = decide (n < 0)
    · rw [distance_of_same hy]
      exact (hnear y).1
    · rw [distance_of_opposite hy]
      omega
  · rw [distance_of_same hsign] at htie
    by_cases hy : y.negative = decide (n < 0)
    · rw [distance_of_same hy] at htie
      refine (hnear y).2 htie fun hmagnitude => hne ?_
      rw [value, value, hmagnitude, hy, hsign]
    · rw [distance_of_opposite hy] at htie
      have hy0 : y.magnitude = 0 := by omega
      refine (hnear (zero false)).2 (by omega) fun hmagnitude => hne ?_
      rw [hzero] at hmagnitude
      simp [value, hy0, ← hmagnitude]

end Double

end FormCheck
