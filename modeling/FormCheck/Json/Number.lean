import FormCheck.Double.Numeral
import FormCheck.Json

/-!
# Number literals of JSON texts

A literal without point and power that fits 64 bits is an integer. Every other literal is a
double, and is scaled rather than rounded once: its digits, as many as fit 64 bits, make a
significand; digits of the whole part that no longer fit raise the power of ten, digits of the
fraction that no longer fit are dropped. The significand is rounded to a double, and that double is
multiplied or divided by the double nearest to the power of ten. A literal beyond the finite range
is no literal.

This is how `from_json_str` gets the numbers of its documents.
-/

namespace FormCheck.Json

/-- A significand that fits 64 bits and the power of ten by which it is scaled. -/
structure Scaled where
  significand : Nat
  power : Int

/-- Whether a further digit still fits 64 bits. -/
def Scaled.fits (s : Scaled) (digit : Char) : Bool :=
  s.significand * 10 + digitValue digit < 0x10000000000000000

/-- Takes up the digits of the whole part. From the first digit on that does not fit, every digit
raises the power. -/
def Scaled.takeWhole (s : Scaled) : List Char → Scaled
  | [] => s
  | c :: rest =>
    if s.fits c then takeWhole { s with significand := s.significand * 10 + digitValue c } rest
    else { s with power := s.power + (rest.length + 1) }

/-- Takes up the digits of the fraction. From the first digit on that does not fit, every digit is
dropped. -/
def Scaled.takeFraction (s : Scaled) : List Char → Scaled
  | [] => s
  | c :: rest =>
    if s.fits c then takeFraction ⟨s.significand * 10 + digitValue c, s.power - 1⟩ rest else s

/-- Scales a non-negative double by a power of ten in steps of at most `10 ^ 308`; nothing beyond
the finite range. -/
def scale? (x : Double) (power : Int) : Option Double :=
  if h : power.natAbs ≤ 308 then
    if 0 ≤ power then x.mul? (.tenPow power.natAbs) else x.div? (.tenPow power.natAbs)
  else if x.rank = 0 then some x
  else if 0 ≤ power then none
  else (x.div? (.tenPow 308)).bind fun y => scale? y (power + 308)
termination_by power.natAbs
decreasing_by omega

/-- The largest power of ten that is read as written. -/
def powerBound : Nat := 0x80000000

/-- The double of a scaled significand, with an explicit power of ten on top if there is one. A
power of ten that does not fit 32 bits makes the number zero or leaves the range. -/
def Scaled.toDouble? (s : Scaled) (negative : Bool) (power : Option (Bool × Nat)) :
    Option Double :=
  let scaled (p : Int) := (scale? (.ofInt s.significand) p).map fun x => ⟨negative, x.rank, x.rank_lt⟩
  match power with
  | none => scaled s.power
  | some (minus, n) =>
    if n < powerBound then scaled (if minus then s.power - n else s.power + n)
    else if s.significand ≠ 0 ∧ minus = false then none
    else some (.zero negative)

/-- The value of a whole literal: an integer if it fits, otherwise, and for a negative zero, a
double. -/
def wholeNumber? (negative : Bool) (digits : List Char) : Option Json :=
  let n : Int := if negative then -(digitsValue digits : Int) else digitsValue digits
  if h : (-0x8000000000000000 ≤ n ∧ n < 0x10000000000000000) ∧ ¬(negative ∧ n = 0) then
    some (.integer ⟨n, h.1.1, h.1.2⟩)
  else ((Scaled.takeWhole ⟨0, 0⟩ digits).toDouble? negative none).map .double

/-- The parts of a number literal. -/
structure NumberParts where
  negative : Bool
  whole : List Char
  /-- The digits after the point, if there is a point. -/
  fraction : Option (List Char)
  /-- The power of ten with its sign, if there is one. -/
  power : Option (Bool × List Char)

/-- The value of a literal; no value beyond the finite range. -/
def NumberParts.value? (p : NumberParts) : Option Json :=
  match p.fraction, p.power with
  | none, none => wholeNumber? p.negative p.whole
  | fraction, power =>
    let scaled := (Scaled.takeWhole ⟨0, 0⟩ p.whole).takeFraction (fraction.getD [])
    (scaled.toDouble? p.negative (power.map fun e => (e.1, digitsValue e.2))).map .double

/-- Whether the whole part is written as it has to be: at least one digit, and no zero in front of
others. -/
def wellWritten : List Char → Bool
  | [] => false
  | '0' :: _ :: _ => false
  | _ => true

/-- The parts of the number literal at the head of a text, and what follows it. -/
def scanNumber? (cs : List Char) : Option (NumberParts × List Char) := do
  let (negative, cs) := match cs with
    | '-' :: rest => (true, rest)
    | cs => (false, cs)
  let (whole, cs) := spanDigits cs
  guard (wellWritten whole)
  let (fraction, cs) ← match cs with
    | '.' :: rest =>
      let (ds, rest) := spanDigits rest
      if ds.isEmpty then none else some (some ds, rest)
    | cs => some (none, cs)
  let (power, cs) ← match cs with
    | c :: rest =>
      if c = 'e' ∨ c = 'E' then
        let (minus, rest) := Numeral.readSign rest
        let (ds, rest) := spanDigits rest
        if ds.isEmpty then none else some (some (minus, ds), rest)
      else some (none, c :: rest)
    | [] => some (none, [])
  some (⟨negative, whole, fraction, power⟩, cs)

end FormCheck.Json
