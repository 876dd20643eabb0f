/-!
# Finite double-precision numbers

A `Double` is a finite binary64 number, kept as a sign and a *rank*: the position of its absolute
value among the non-negative doubles, counted from zero. The rank is the binary64 bit pattern
without its sign, so the order of absolute values is the order of ranks.

* `Double.le_refl`, `Double.le_trans`, `Double.le_total`: the comparison is a total preorder; the two
  zeros bound each other.
* `Double.significand`, `Double.exponent`: the absolute value is `significand * 2 ^ exponent`.

Infinities and not-a-number are no values of this type: a number that would not be finite is an
absent one where doubles are built.
-/

namespace FormCheck

/-- The weight of the leading bit of a 53-bit significand. -/
def Double.leadingBit : Nat := 0x10000000000000

/-- The number of finite non-negative doubles. -/
def Double.rankBound : Nat := 0x7FF * Double.leadingBit

/-- A finite binary64 number. -/
structure Double where
  /-- Whether the sign is a minus; zero has a sign as well. -/
  negative : Bool
  /-- The position of the absolute value among the non-negative doubles. -/
  rank : Nat
  /-- Only finite numbers are ranked. -/
  rank_lt : rank < Double.rankBound
deriving DecidableEq

namespace Double

/-- Positive or negative zero. -/
def zero (negative : Bool) : Double := ⟨negative, 0, by decide⟩

instance : Inhabited Double := ⟨zero false⟩

/-- The finite number with the largest absolute value. -/
def largest (negative : Bool) : Double := ⟨negative, rankBound - 1, by decide⟩

/-- The number with the other sign. -/
def neg (x : Double) : Double := ⟨!x.negative, x.rank, x.rank_lt⟩

/-- The integer significand of the absolute value. -/
def significand (x : Double) : Nat :=
  if x.rank < leadingBit then x.rank else leadingBit + x.rank % leadingBit

/-- The power of two by which the significand is scaled. -/
def exponent (x : Double) : Int :=
  if x.rank < leadingBit then -1074 else (x.rank / leadingBit : Nat) - 1075

/-- The place of a number in the order of all numbers; both zeros are at `0`. -/
def place (x : Double) : Int := if x.negative then -(x.rank : Int) else x.rank

/-- Numbers are ordered by their places. -/
instance : LE Double := ⟨fun x y => x.place ≤ y.place⟩

instance (x y : Double) : Decidable (x ≤ y) := inferInstanceAs (Decidable (x.place ≤ y.place))

protected theorem le_refl (x : Double) : x ≤ x := Int.le_refl x.place

protected theorem le_trans {x y z : Double} (h : x ≤ y) (h' : y ≤ z) : x ≤ z := Int.le_trans h h'

protected theorem le_total (x y : Double) : x ≤ y ∨ y ≤ x := Int.le_total x.place y.place

end Double

end FormCheck
