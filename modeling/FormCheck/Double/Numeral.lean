import FormCheck.Double.Rounding

/-!
# Decimal numerals

A numeral is an optional sign, digits with at most one point among, before or after them, and an
optional power of ten. `Double.ofText?` reads a text that is a numeral and nothing else, and rounds
it correctly; a numeral beyond the finite range has no double. Words such as `inf` and `nan` are
no numerals.

* `digitsValue_append`: the value of one run of digits after another.
-/

namespace FormCheck

/-- An ASCII digit. -/
def isDigit (c : Char) : Bool := '0' ≤ c && c ≤ '9'

/-- The value of an ASCII digit. -/
def digitValue (c : Char) : Nat := c.toNat - 48

/-- The number that a run of digits spells. -/
def digitsValue (ds : List Char) : Nat := ds.foldl (fun n c => 10 * n + digitValue c) 0

/-- The leading digits of a text and what follows them. -/
def spanDigits (cs : List Char) : List Char × List Char :=
  (cs.takeWhile isDigit, cs.dropWhile isDigit)

theorem digitsValue_foldl (ds : List Char) (n : Nat) :
    ds.foldl (fun n c => 10 * n + digitValue c) n = n * Nat.pow 10 ds.length + digitsValue ds := by
  induction ds generalizing n with
  | nil => simp [digitsValue]
  | cons c rest ih =>
    have step : digitsValue (c :: rest) =
        (10 * 0 + digitValue c) * Nat.pow 10 rest.length + digitsValue rest := by
      rw [← ih]
      rfl
    have tens : Nat.pow 10 (rest.length + 1) = 10 * Nat.pow 10 rest.length := Nat.mul_comm _ 10
    rw [step, List.foldl_cons, ih, List.length_cons, tens, Nat.add_mul, Nat.add_mul,
      Nat.mul_comm 10 n, Nat.mul_assoc n 10]
    omega

/-- Leading digits weigh as many tens as digits follow them. -/
theorem digitsValue_append (as bs : List Char) :
    digitsValue (as ++ bs) = digitsValue as * Nat.pow 10 bs.length + digitsValue bs := by
  rw [digitsValue, List.foldl_append, digitsValue_foldl]
  rfl

/-- The number `± digits * 10 ^ exponent`. -/
structure Numeral where
  negative : Bool
  digits : Nat
  exponent : Int

namespace Numeral

/-- A leading sign, and what follows it. -/
def readSign : List Char → Bool × List Char
  | '-' :: rest => (true, rest)
  | '+' :: rest => (false, rest)
  | cs => (false, cs)

/-- A power of ten that ends the text; an empty text is the power zero. -/
def readPower : List Char → Option Int
  | [] => some 0
  | c :: rest =>
    if c = 'e' ∨ c = 'E' then
      let (minus, cs) := readSign rest
      let (ds, tail) := spanDigits cs
      if ds.isEmpty || !tail.isEmpty then none
      else some (if minus then -(digitsValue ds : Int) else digitsValue ds)
    else none

/-- Reads a text that is a numeral and nothing else. -/
def read? (cs : List Char) : Option Numeral :=
  let (minus, cs) := readSign cs
  let (whole, cs) := spanDigits cs
  let (fraction, cs) := match cs with
    | '.' :: rest => spanDigits rest
    | cs => ([], cs)
  if whole.isEmpty && fraction.isEmpty then none
  else (readPower cs).map fun power =>
    ⟨minus, digitsValue (whole ++ fraction), power - fraction.length⟩

/-- The nearest double. Numerals far outside the range are told by the place of their leading
digit: from `10 ^ 310` on there is no double, and below `10 ^ (-324)` it is zero. -/
def toDouble? (n : Numeral) : Option Double :=
  if n.digits = 0 then some (.zero n.negative)
  else
    let top := n.exponent + (Nat.toDigits 10 n.digits).length
    if 311 < top then none
    else if top < -324 then some (.zero n.negative)
    else if 0 ≤ n.exponent then
      Double.ofRatio? n.negative (n.digits * Nat.pow 10 n.exponent.toNat) 1
    else Double.ofRatio? n.negative n.digits (Nat.pow 10 (-n.exponent).toNat)

end Numeral

/-- The double that a numeral spells. -/
def Double.ofText? (cs : List Char) : Option Double := (Numeral.read? cs).bind Numeral.toDouble?

end FormCheck
