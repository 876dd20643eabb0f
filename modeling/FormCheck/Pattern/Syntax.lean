import FormCheck.Unicode.CharSet

/-!
# The syntax of patterns

The syntax trees of regular expressions. A tree keeps what a pattern is made of and not how it was
written: groups keep the flags that they set, and repetitions keep their bounds, but names of groups
and the eagerness of repetitions are dropped, because they do not change which texts match.
-/

namespace FormCheck.Pattern

/-- What a flag of a pattern changes. -/
inductive Flag where
  /-- Letters match in any case. -/
  | ignoreCase
  /-- Line anchors match at every line. -/
  | multiLine
  /-- The dot matches line feeds. -/
  | dotAll
  /-- Repetitions are lazy unless marked. -/
  | swapGreed
  /-- Classes and anchors know all of Unicode. -/
  | unicode
  /-- A line may end in a carriage return. -/
  | crlf
  /-- Blanks and comments do not count. -/
  | verbose
deriving DecidableEq

/-- Flags that are set or cleared, in order. -/
abbrev FlagChanges := List (Flag × Bool)

/-- A place between characters. -/
inductive Anchor where
  | lineStart | lineEnd | textStart | textEnd
  | wordBoundary | notWordBoundary
  | wordStart | wordEnd | wordStartHalf | wordEndHalf
deriving DecidableEq

/-- The classes of one letter. -/
inductive ShortClass where
  | digit | space | word
deriving DecidableEq

/-- A class of characters that is given by name. -/
inductive NamedClass where
  /-- One of the classes of one letter. -/
  | short (c : ShortClass) (negated : Bool)
  /-- A property, a category or a script. -/
  | property (name : String) (negated : Bool)
  /-- A property with a value. -/
  | valued (property value : String) (negated : Bool)
deriving DecidableEq

/-- How two sets of a class are combined. -/
inductive SetOp where
  | inter | diff | symmDiff
deriving DecidableEq

/-- A character of a pattern. `byte` marks one that is written as a two-digit hexadecimal code, and
so means a byte where Unicode is off. -/
structure Literal where
  char : Char
  byte : Bool := false
deriving DecidableEq

/-- What stands between the brackets of a class. -/
inductive ClassTree where
  | empty
  | literal (l : Literal)
  | range (first last : Literal)
  | ascii (set : Unicode.CharSet) (negated : Bool)
  | named (c : NamedClass)
  | bracketed (negated : Bool) (inner : ClassTree)
  | union (items : List ClassTree)
  | op (o : SetOp) (left right : ClassTree)

/-- A regular expression. -/
inductive Tree where
  | empty
  /-- Flags that hold up to the end of the group. -/
  | flags (changes : FlagChanges)
  | literal (l : Literal)
  | dot
  | anchor (a : Anchor)
  | named (c : NamedClass)
  | bracketed (negated : Bool) (inner : ClassTree)
  | repetition (inner : Tree) (min : Nat) (max : Option Nat)
  | group (changes : FlagChanges) (inner : Tree)
  | concat (items : List Tree)
  | alternation (branches : List Tree)

namespace ClassTree

mutual

/-- How deep classes and unions are nested in one another. -/
def depth : ClassTree → Nat
  | bracketed _ inner => inner.depth + 1
  | union items => depthAll items + 1
  | op _ left right => max left.depth right.depth + 1
  | _ => 0

/-- The greatest depth of a list. -/
def depthAll : List ClassTree → Nat
  | [] => 0
  | t :: rest => max t.depth (depthAll rest)

end

/-- A union of items; a single one is itself. -/
def ofItems : List ClassTree → ClassTree
  | [] => empty
  | [t] => t
  | items => union items

end ClassTree

namespace Tree

mutual

/-- How deep expressions are nested in one another. -/
def depth : Tree → Nat
  | bracketed _ inner => inner.depth + 1
  | repetition inner _ _ => inner.depth + 1
  | group _ inner => inner.depth + 1
  | concat items => depthAll items + 1
  | alternation branches => depthAll branches + 1
  | _ => 0

/-- The greatest depth of a list. -/
def depthAll : List Tree → Nat
  | [] => 0
  | t :: rest => max t.depth (depthAll rest)

end

/-- One expression after the other; a single one is itself. -/
def ofItems : List Tree → Tree
  | [] => empty
  | [t] => t
  | items => concat items

/-- A choice of expressions; a single one is itself. -/
def ofBranches : List Tree → Tree
  | [] => empty
  | [t] => t
  | branches => alternation branches

end Tree

end FormCheck.Pattern
