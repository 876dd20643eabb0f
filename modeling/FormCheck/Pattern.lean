import FormCheck.Pattern.Parser
import FormCheck.Pattern.Walk

/-!
# Patterns

A `Pattern` is a regular expression that texts can be compared with. A text matches if the
expression matches somewhere in it; only anchors tie the expression to the ends of the text.

`Pattern.compile?` and `Pattern.isMatch` are what the validator `Pattern` asks of its `regex`.

`Pattern.compile?` refuses a text that is no expression, an expression that means nothing, and one
whose repetitions would make it too large.
-/

namespace FormCheck

namespace Unicode.CharSet

/-- How many ranges a set has at most. -/
def spans : CharSet → Nat
  | none => 0
  | range _ _ => 1
  | table t => t.ranges.size
  | union a b | inter a b | diff a b => a.spans + b.spans
  | compl a => a.spans + 1
  | folded a | foldedAscii a => 2 * a.spans

/-- Whether a set is made of ASCII characters alone. -/
def isAscii : CharSet → Bool
  | none => true
  | range _ last => last < 0x80
  | table _ | compl _ | folded _ => false
  | union a b => a.isAscii && b.isAscii
  | inter a b => a.isAscii || b.isAscii
  | diff a _ => a.isAscii
  | foldedAscii a => a.isAscii

end Unicode.CharSet

namespace Pattern

/-- Whether an expression can match nothing but the empty text. -/
def Node.takesNothing : Node → Bool
  | .empty | .anchor _ _ => true
  | .char _ => false
  | .seq first second => first.takesNothing && second.takesNothing
  | .choice left right => left.takesNothing && right.takesNothing
  | .repetition inner _ max => inner.takesNothing || max == some 0

/-- The size of an expression with all its repetitions written out, in bytes of a machine that
matches it: so many for each step, and for each range of a set. An expression that takes nothing need
not be repeated. -/
def Node.weight : Node → Nat
  | .empty => 32
  | .char set => if set.isAscii then 32 + 8 * set.spans else 968 + 16 * set.spans
  | .anchor _ _ => 32
  | .seq first second => first.weight + second.weight
  | .choice left right => left.weight + right.weight + 40
  | .repetition inner min max =>
    if inner.takesNothing then inner.weight + 40
    else
      match max with
      | some max => min * inner.weight + (max - min) * (inner.weight + 40)
      | none => (if min = 0 then 1 else min) * inner.weight + 40

/-- The greatest size of an expression. -/
def weightLimit : Nat := 10 * 1024 * 1024

end Pattern

/-- A regular expression with the text that it was read from. -/
structure Pattern where
  source : String
  node : Pattern.Node
deriving Inhabited

namespace Pattern

/-- The pattern that a text spells. -/
def compile? (source : String) : Option Pattern := do
  let node ← (Tree.ofText? source).bind Node.ofTree?
  if node.weight ≤ weightLimit then some ⟨source, node⟩ else none

/-- Whether a text matches somewhere. -/
def isMatch (p : Pattern) (text : String) : Bool := p.node.matchesIn text.toList

theorem source_of_compile? {source : String} {p : Pattern} (h : compile? source = some p) :
    p.source = source := by
  simp only [compile?, Option.bind_eq_bind, Option.bind_eq_some_iff] at h
  obtain ⟨node, _, h⟩ := h
  split at h
  · cases h
    rfl
  · cases h

end Pattern

end FormCheck
