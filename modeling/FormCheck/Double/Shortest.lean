import FormCheck.Double.Rounding

/-!
# The shortest decimal of a double

`Double.shortest` is the decimal with the fewest digits among those that round to a given double,
and of these the nearest one. A decimal grid (all multiples of one power of ten) is *hit* when one
of its points rounds to the double; the shortest decimal lies on the coarsest grid that is hit.
-/

namespace FormCheck

/-- Where a number exactly between two candidates goes. -/
inductive Tie where
  /-- To the larger absolute value. -/
  | up
  /-- To the even digit. -/
  | even
deriving DecidableEq

/-- The decimal `digits * 10 ^ exponent`. -/
structure Decimal where
  digits : Nat
  exponent : Int
deriving DecidableEq

/-- The numbers that round to one double, in units of a quarter of its last place. -/
structure RoundingInterval where
  /-- The double itself. -/
  centre : Nat
  /-- Half-way to the next smaller double. -/
  lower : Nat
  /-- Half-way to the next larger double. -/
  upper : Nat
  /-- Whether the two ends round to the double as well. -/
  closed : Bool
  /-- The unit is this power of two. -/
  unit : Int

namespace Double

/-- The numbers that round to `x`. The gap below a power of two is half as wide as the one
above. -/
def roundingInterval (x : Double) : RoundingInterval :=
  let m := x.significand
  let narrow := m = leadingBit ∧ -1074 < x.exponent
  { centre := 4 * m
    lower := if narrow then 4 * m - 1 else 4 * m - 2
    upper := 4 * m + 2
    closed := m % 2 = 0
    unit := x.exponent - 2 }

end Double

namespace RoundingInterval

/-- The weight of one grid point when units and points are compared as natural numbers. -/
def pointWeight (i : RoundingInterval) (p : Int) : Nat := Nat.pow 10 p.toNat <<< (-i.unit).toNat

/-- The weight of one unit in the same comparison. -/
def unitWeight (i : RoundingInterval) (p : Int) : Nat := Nat.pow 10 (-p).toNat <<< i.unit.toNat

/-- Whether `c * 10 ^ p` rounds to the double. -/
def inside (i : RoundingInterval) (p : Int) (c : Nat) : Bool :=
  let point := c * i.pointWeight p
  let lower := i.lower * i.unitWeight p
  let upper := i.upper * i.unitWeight p
  c ≠ 0 && if i.closed then lower ≤ point && point ≤ upper else lower < point && point < upper

/-- The two points of the grid `10 ^ p` beside the double, the nearer one first. -/
def neighbours (i : RoundingInterval) (tie : Tie) (p : Int) : Nat × Nat :=
  let centre := i.centre * i.unitWeight p
  let below := centre / i.pointWeight p
  let toBelow := centre - below * i.pointWeight p
  let toAbove := (below + 1) * i.pointWeight p - centre
  let belowFirst : Bool := toBelow < toAbove || (toBelow == toAbove && tie == .even && below % 2 == 0)
  if belowFirst then (below, below + 1) else (below + 1, below)

/-- The point of the grid `10 ^ p` nearest to the double among those that round to it. -/
def hit? (i : RoundingInterval) (tie : Tie) (p : Int) : Option Nat :=
  [(i.neighbours tie p).1, (i.neighbours tie p).2].find? (i.inside p)

/-- Looks for a hit on the grids `10 ^ p`, `10 ^ (p - 1)`, …, as many as told; failing that, the
point below the double on the last grid. -/
def coarsest (i : RoundingInterval) (tie : Tie) : Nat → Int → Decimal
  | 0, p => ⟨i.centre * i.unitWeight p / i.pointWeight p, p⟩
  | steps + 1, p =>
    match i.hit? tie p with
    | some c => ⟨c, p⟩
    | none => coarsest i tie steps (p - 1)

end RoundingInterval

namespace Double

/-- A power of ten beyond the absolute value of `x`, at most three above its leading digit. -/
def beyond (x : Double) : Int := (x.exponent + x.significand.log2 + 1) * 30103 / 100000 + 2

/-- The decimal with the fewest digits that rounds to `x`, the nearest of them to `x`. Twenty-four
grids suffice, because seventeen digits tell any two doubles apart. -/
def shortest (tie : Tie) (x : Double) : Decimal :=
  if x.rank = 0 then ⟨0, 0⟩ else x.roundingInterval.coarsest tie 24 x.beyond

end Double

end FormCheck
