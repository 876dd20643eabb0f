import FormCheck.Date

/-!
# Dates as texts

The standard text of a date has four digits of the year, two of the month and two of the day, with
hyphens between. A year outside `0` to `9999` is written with a sign and at least four digits.
-/

namespace FormCheck.Date

/-- The layout of the standard text: year, month and day with hyphens between. -/
def isoFormat : String := "%Y-%m-%d"

/-- A number with zeros in front up to the given number of digits. -/
def padded (width n : Nat) : List Char :=
  let digits := Nat.toDigits 10 n
  List.replicate (width - digits.length) '0' ++ digits

/-- The text of a year. -/
def yearText (year : Int) : List Char :=
  if year < 0 then '-' :: padded 4 year.natAbs
  else if 9999 < year then '+' :: padded 4 year.natAbs
  else padded 4 year.natAbs

/-- The standard text of a date as a list of characters. -/
def chars (d : Date) : List Char :=
  yearText d.year ++ '-' :: padded 2 d.month ++ '-' :: padded 2 d.day

/-- The standard text of a date. -/
def text (d : Date) : String := String.ofList d.chars

end FormCheck.Date
