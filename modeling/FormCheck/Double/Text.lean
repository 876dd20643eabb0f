import FormCheck.Double.Shortest

/-!
# Written forms of doubles

Two forms are in use. `Double.text` stands in messages and answers: the shortest decimal, always
positional, a whole number without a point. `Double.describe` stands where the shape of a value is
reported: a whole number keeps `.0`, and a very large or very small number has an exponent.
-/

namespace FormCheck

/-- How the digits of a number are laid out. -/
structure NumberLayout where
  /-- Where a number exactly between two candidates goes. -/
  tie : Tie
  /-- Whether a whole number in positional form ends in `.0`. -/
  keepsFraction : Bool
  /-- Whether a number is positional whose point stands after so many digits. -/
  positional : Int → Bool

namespace NumberLayout

/-- Digits, a point before the last `-exponent` of them, zeros where there is no digit. -/
def positionalText (layout : NumberLayout) (digits : List Char) (exponent : Int) : List Char :=
  let fraction := if layout.keepsFraction then ['.', '0'] else []
  if 0 ≤ exponent then digits ++ List.replicate exponent.toNat '0' ++ fraction
  else
    let places := (-exponent).toNat
    if places < digits.length then
      digits.take (digits.length - places) ++ '.' :: digits.drop (digits.length - places)
    else '0' :: '.' :: (List.replicate (places - digits.length) '0' ++ digits)

/-- One digit, a point and the other digits if there are any, and a power of ten with its sign and
at least two digits. -/
def exponentText (digits : List Char) (point : Int) : List Char :=
  let power := point - 1
  let mantissa := match digits with
    | first :: second :: rest => first :: '.' :: second :: rest
    | few => few
  let powerDigits := Nat.toDigits 10 power.natAbs
  let sign := if power < 0 then '-' else '+'
  mantissa ++ 'e' :: sign :: (List.replicate (2 - powerDigits.length) '0' ++ powerDigits)

/-- The text of a number in this layout. -/
def write (layout : NumberLayout) (x : Double) : String :=
  let decimal := x.shortest layout.tie
  let digits := Nat.toDigits 10 decimal.digits
  let point := decimal.exponent + digits.length
  let body :=
    if layout.positional point then layout.positionalText digits decimal.exponent
    else exponentText digits point
  String.ofList (if x.negative then '-' :: body else body)

end NumberLayout

namespace Double

/-- Messages write numbers in full: a tie goes up, whole numbers have no point, and there is never
an exponent. -/
def plainLayout : NumberLayout := ⟨.up, false, fun _ => true⟩

/-- Reports on shapes write whole numbers with `.0`, and use an exponent from `10 ^ 16` on and
below `10 ^ (-5)`. -/
def shapeLayout : NumberLayout := ⟨.even, true, fun point => -5 < point && point ≤ 16⟩

/-- The number as messages write it. -/
def text (x : Double) : String := plainLayout.write x

/-- The number as reports on shapes write it. -/
def describe (x : Double) : String := shapeLayout.write x

end Double

end FormCheck
