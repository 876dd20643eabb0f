/-!
# Tables of code point ranges

A `RangeTable` lists ranges of code points in ascending order. Tables are written as texts of
hexadecimal ranges, `41-5A 61-7A AA`, and are looked up by halving.

Every table of this library follows version 16.0 of the Unicode Character Database.
-/

namespace FormCheck.Unicode

/-- Ranges of code points with both ends included, ascending and apart. -/
structure RangeTable where
  ranges : Array (Nat × Nat)
deriving Inhabited

namespace RangeTable

/-- The value of an upper-case hexadecimal digit. -/
def hexDigit (c : Char) : Nat := if c ≤ '9' then c.toNat - 48 else c.toNat - 55

/-- A range of which some characters were read: the finished ranges, its lower end if a hyphen was
seen, and the number being read, if any. -/
structure Reading where
  done : Array (Nat × Nat)
  lower : Option Nat
  number : Option Nat

/-- The ranges when the number being read has ended. -/
def Reading.close (r : Reading) : Array (Nat × Nat) :=
  match r.number with
  | some n => r.done.push (r.lower.getD n, n)
  | none => r.done

/-- Reads one character of a table: blanks and ends of lines end a range, a hyphen its lower end. -/
def Reading.step (r : Reading) (c : Char) : Reading :=
  if c = ' ' ∨ c = '\n' then ⟨r.close, none, none⟩
  else if c = '-' then { r with lower := r.number, number := none }
  else { r with number := some (r.number.getD 0 * 16 + hexDigit c) }

/-- The table that a text of ranges spells. -/
def ofText (text : String) : RangeTable := ⟨(text.foldl Reading.step ⟨#[], none, none⟩).close⟩

/-- Whether one of the ranges from index `lo` on and before index `hi` holds `n`. -/
def search (ranges : Array (Nat × Nat)) (n lo hi : Nat) : Bool :=
  if lo < hi then
    let mid := (lo + hi) / 2
    match ranges[mid]? with
    | none => false
    | some (first, last) =>
      if n < first then search ranges n lo mid
      else if last < n then search ranges n (mid + 1) hi
      else true
  else false
termination_by hi - lo

/-- Whether a range of the table holds the code point `n`. -/
def holds (t : RangeTable) (n : Nat) : Bool := search t.ranges n 0 t.ranges.size

end RangeTable

end FormCheck.Unicode
