import FormCheck.Unicode.CaseVariants
import FormCheck.Unicode.RangeTable

/-!
# Sets of characters

A `CharSet` is built from tables and ranges by the operations on sets. It is asked for its members
only, so a set is its own description and no operation computes ranges.
-/

namespace FormCheck.Unicode

/-- A description of a set of characters. -/
inductive CharSet where
  /-- No character. -/
  | none
  /-- The characters between two code points, both included. -/
  | range (first last : Nat)
  /-- The characters of a table. -/
  | table (t : RangeTable)
  | union (a b : CharSet)
  | inter (a b : CharSet)
  /-- The characters of `a` that are not in `b`. -/
  | diff (a b : CharSet)
  | compl (a : CharSet)
  /-- The characters of `a` and all their case variants. -/
  | folded (a : CharSet)
  /-- The characters of `a` and the other case of its ASCII letters. -/
  | foldedAscii (a : CharSet)
deriving Inhabited

namespace CharSet

/-- An ASCII letter in the other case, and any other character as it is. -/
def swapAscii (c : Char) : Char := if c.isUpper then c.toLower else c.toUpper

/-- Membership. -/
def contains : CharSet → Char → Bool
  | none, _ => false
  | range first last, c => first ≤ c.toNat && c.toNat ≤ last
  | table t, c => t.holds c.toNat
  | union a b, c => a.contains c || b.contains c
  | inter a b, c => a.contains c && b.contains c
  | diff a b, c => a.contains c && !b.contains c
  | compl a, c => !a.contains c
  | folded a, c => (caseVariants c).any a.contains
  | foldedAscii a, c => a.contains c || a.contains (swapAscii c)

/-- Every character. -/
def all : CharSet := compl none

/-- The set of one character. -/
def single (c : Char) : CharSet := range c.toNat c.toNat

/-- The union of a list of sets. -/
def unions (sets : List CharSet) : CharSet := sets.foldr union none

/-- The set that a text of ranges spells. -/
def ofText (text : String) : CharSet := table (RangeTable.ofText text)

end CharSet

end FormCheck.Unicode
