import FormCheck.Double

/-!
# Rounding to the nearest double

`Double.ofRatio?` rounds a quotient of natural numbers to the nearest double, a tie going to the
one with the even significand; a quotient beyond the finite range has no double. Integers,
products with a power of ten and decimal numerals are rounded through it.

* `roundDiv_bounds`: the integer rounding is within half a unit.
-/

namespace FormCheck

/-- The integer nearest to `n / d`, a tie going to the even one. -/
def roundDiv (n d : Nat) : Nat :=
  let q := n / d
  let r := n % d
  if 2 * r < d then q else if d < 2 * r then q + 1 else q + q % 2

/-- The rounded quotient is within half a unit of the quotient. -/
theorem roundDiv_bounds (n : Nat) {d : Nat} (hd : 0 < d) :
    2 * n ≤ (2 * roundDiv n d + 1) * d ∧ 2 * (roundDiv n d * d) ≤ 2 * n + d := by
  have hm := Nat.div_add_mod n d
  have hr := Nat.mod_lt n hd
  generalize hq : n / d = q at *
  generalize hr' : n % d = r at *
  have hcomm : d * q = q * d := Nat.mul_comm d q
  simp only [roundDiv, hq, hr']
  split
  · constructor
    · rw [Nat.add_mul, Nat.mul_assoc]
      omega
    · omega
  · split
    · rw [Nat.add_mul, Nat.mul_assoc, Nat.add_mul]
      omega
    · have : q % 2 < 2 := Nat.mod_lt _ (by decide)
      rcases Nat.mod_two_eq_zero_or_one q with h | h
      · rw [h, Nat.add_mul, Nat.mul_assoc]
        simp only [Nat.add_zero]
        omega
      · rw [h, Nat.add_mul, Nat.mul_assoc, Nat.add_mul]
        omega

namespace Double

/-- The rank nearest to `num / den`, not yet bounded: the significand of the quotient at the
largest power of two that keeps 53 bits of it, or at the smallest power of two of all. -/
def nearestRank (num den : Nat) : Nat :=
  if num = 0 then 0
  else
    let top : Int := (num.log2 : Int) - den.log2
    let reached : Bool :=
      if 0 ≤ top then den <<< top.toNat ≤ num else den ≤ num <<< (-top).toNat
    let e : Int := max (-1074) (if reached then top - 52 else top - 53)
    let m := if 0 ≤ e then roundDiv num (den <<< e.toNat) else roundDiv (num <<< (-e).toNat) den
    (e + 1074).toNat * leadingBit + m

/-- The double nearest to `num / den` with the given sign; none beyond the finite range. -/
def ofRatio? (negative : Bool) (num den : Nat) : Option Double :=
  if h : nearestRank num den < rankBound then some ⟨negative, nearestRank num den, h⟩ else none

/-- The double nearest to an integer; the largest finite one beyond the range. -/
def ofInt (n : Int) : Double :=
  (ofRatio? (decide (n < 0)) n.natAbs 1).getD (largest (decide (n < 0)))

/-- The double nearest to ten to the power of `n`; the largest finite one beyond the range. -/
def tenPow (n : Nat) : Double := ofInt (Nat.pow 10 n)

/-- The absolute value as a quotient of natural numbers. -/
def ratio (x : Double) : Nat × Nat :=
  if 0 ≤ x.exponent then (x.significand <<< x.exponent.toNat, 1)
  else (x.significand, 1 <<< (-x.exponent).toNat)

/-- The product, rounded to the nearest double. -/
def mul? (x y : Double) : Option Double :=
  ofRatio? (x.negative != y.negative) (x.ratio.1 * y.ratio.1) (x.ratio.2 * y.ratio.2)

/-- The quotient by a number other than zero, rounded to the nearest double. -/
def div? (x y : Double) : Option Double :=
  if y.rank = 0 then none
  else ofRatio? (x.negative != y.negative) (x.ratio.1 * y.ratio.2) (x.ratio.2 * y.ratio.1)

end Double

end FormCheck
