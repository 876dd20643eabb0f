import FormCheck.Pattern.Syntax
import FormCheck.Unicode.PropertyName

/-!
# What patterns ask for

A `Node` is an expression in which all flags are settled: it asks for characters of given sets and
for places with given neighbours. `Node.ofTree?` settles the flags of a syntax tree. A flag holds
from where it is set to the end of its group, across branches.

Some trees mean nothing: one that names an unknown property, and one that would have to look inside
a character because Unicode is off.

Upper and lower case are joined where sets are complete: at a character, at a named class, at both
sides of an operation, and at a closing bracket before its negation.
-/

namespace FormCheck.Pattern

open Unicode

/-- The flags in force at a place of a pattern. -/
structure Flags where
  ignoreCase : Bool := false
  multiLine : Bool := false
  dotAll : Bool := false
  unicode : Bool := true
  crlf : Bool := false
deriving DecidableEq

namespace Flags

/-- The flags with one of them set or cleared. -/
def set (f : Flags) (flag : Flag) (value : Bool) : Flags :=
  match flag with
  | .ignoreCase => { f with ignoreCase := value }
  | .multiLine => { f with multiLine := value }
  | .dotAll => { f with dotAll := value }
  | .unicode => { f with unicode := value }
  | .crlf => { f with crlf := value }
  | .swapGreed | .verbose => f

/-- The flags after some changes. -/
def apply (f : Flags) (changes : FlagChanges) : Flags :=
  changes.foldl (fun f change => f.set change.1 change.2) f

/-- A set of characters, with both cases of its letters if case is ignored. -/
def fold (f : Flags) (set : CharSet) : CharSet :=
  if f.ignoreCase then if f.unicode then .folded set else .foldedAscii set else set

/-- The complement of a set if it is negated. A negated set holds characters beyond ASCII, which
cannot be taken apart where Unicode is off. -/
def negate? (f : Flags) (negated : Bool) (set : CharSet) : Option CharSet :=
  if negated then if f.unicode then some (.compl set) else none else some set

end Flags

/-! ## Sets of characters -/

/-- The letters, digits and underscores of ASCII. -/
def asciiWord : CharSet :=
  .unions [.range 0x30 0x39, .range 0x41 0x5A, .range 0x61 0x7A, .single '_']

/-- What a class of one letter holds. -/
def ShortClass.set (unicode : Bool) : ShortClass → CharSet
  | digit => if unicode then Category.nd else .range 0x30 0x39
  | space => if unicode then Property.whiteSpace else .union (.range 0x09 0x0D) (.single ' ')
  | word => if unicode then Property.word else asciiWord

/-- What a named class holds. -/
def NamedClass.set? (f : Flags) : NamedClass → Option CharSet
  | short c negated => f.negate? negated (c.set f.unicode)
  | property name negated =>
    if f.unicode then (named? name).bind fun set => f.negate? negated (f.fold set) else none
  | valued key value negated =>
    if f.unicode then (valued? key value).bind fun set => f.negate? negated (f.fold set)
    else none

/-- The character that a literal of a class stands for: only ASCII where Unicode is off. -/
def Literal.inClass? (f : Flags) (l : Literal) : Option Char :=
  if f.unicode || l.char.toNat < 0x80 then some l.char else none

/-- What an operation makes of two sets. -/
def SetOp.apply (left right : CharSet) : SetOp → CharSet
  | inter => .inter left right
  | diff => .diff left right
  | symmDiff => .union (.diff left right) (.diff right left)

mutual

/-- What a class in brackets holds. -/
def ClassTree.set? (f : Flags) : ClassTree → Option CharSet
  | .empty => some .none
  | .literal l => (l.inClass? f).map .single
  | .range first last => do
    let a ← first.inClass? f
    let b ← last.inClass? f
    some (.range a.toNat b.toNat)
  | .ascii set negated => f.negate? negated (f.fold set)
  | .named c => c.set? f
  | .bracketed negated inner => (inner.set? f).bind fun set => f.negate? negated (f.fold set)
  | .union items => (ClassTree.sets? f items).map .unions
  | .op o left right => do
    let a ← left.set? f
    let b ← right.set? f
    some (o.apply (f.fold a) (f.fold b))

/-- What the items of a list hold. -/
def ClassTree.sets? (f : Flags) : List ClassTree → Option (List CharSet)
  | [] => some []
  | t :: rest => do
    let set ← t.set? f
    let sets ← ClassTree.sets? f rest
    some (set :: sets)

end

/-- What the dot holds: everything, or everything that does not end a line. Where Unicode is off it
would match parts of characters. -/
def dotSet? (f : Flags) : Option CharSet :=
  if !f.unicode then none
  else if f.dotAll then some .all
  else if f.crlf then some (.compl (.union (.single '\r') (.single '\n')))
  else some (.compl (.single '\n'))

/-- What a character of a pattern stands for. A two-digit code beyond ASCII is a part of a character
where Unicode is off. -/
def Literal.set? (f : Flags) (l : Literal) : Option CharSet :=
  if !f.unicode && l.byte && 0x80 ≤ l.char.toNat then none else some (f.fold (.single l.char))

/-! ## Places -/

/-- Whether a neighbour of a place belongs to a word. -/
def isWordChar (unicode : Bool) (c : Option Char) : Bool := c.any (ShortClass.word.set unicode).contains

/-- Whether a line begins between two characters. -/
def beginsLine (crlf : Bool) (before after : Option Char) : Bool :=
  before.isNone || before == some '\n' || (crlf && before == some '\r' && after != some '\n')

/-- Whether a line ends between two characters. -/
def endsLine (crlf : Bool) (before after : Option Char) : Bool :=
  if crlf then
    after.isNone || after == some '\r' || (after == some '\n' && before != some '\r')
  else after.isNone || after == some '\n'

/-- Whether an anchor holds at the place between two characters; at the ends of the text one of them
is missing. -/
def Anchor.holds (f : Flags) (before after : Option Char) : Anchor → Bool
  | textStart => before.isNone
  | textEnd => after.isNone
  | lineStart => if f.multiLine then beginsLine f.crlf before after else before.isNone
  | lineEnd => if f.multiLine then endsLine f.crlf before after else after.isNone
  | wordBoundary => isWordChar f.unicode before != isWordChar f.unicode after
  | notWordBoundary => isWordChar f.unicode before == isWordChar f.unicode after
  | wordStart => !isWordChar f.unicode before && isWordChar f.unicode after
  | wordEnd => isWordChar f.unicode before && !isWordChar f.unicode after
  | wordStartHalf => !isWordChar f.unicode before
  | wordEndHalf => !isWordChar f.unicode after

/-! ## Expressions -/

/-- An expression with settled flags. -/
inductive Node where
  /-- Matches everywhere and takes nothing. -/
  | empty
  /-- Takes one character of the set. -/
  | char (set : CharSet)
  /-- Matches where the anchor holds, and takes nothing. -/
  | anchor (flags : Flags) (a : Anchor)
  | seq (first second : Node)
  | choice (left right : Node)
  | repetition (inner : Node) (min : Nat) (max : Option Nat)
deriving Inhabited

mutual

/-- Settles the flags of a tree, and gives the flags in force behind it. -/
def Node.settle? (f : Flags) : Tree → Option (Node × Flags)
  | .empty => some (.empty, f)
  | .flags changes => some (.empty, f.apply changes)
  | .literal l => (l.set? f).map fun set => (.char set, f)
  | .dot => (dotSet? f).map fun set => (.char set, f)
  | .anchor a => some (.anchor f a, f)
  | .named c => (c.set? f).map fun set => (.char set, f)
  | .bracketed negated inner => do
    let set ← inner.set? f
    let set ← f.negate? negated (f.fold set)
    some (.char set, f)
  | .repetition inner min max => do
    let (node, f) ← Node.settle? f inner
    some (.repetition node min max, f)
  | .group changes inner => (Node.settle? (f.apply changes) inner).map fun (node, _) => (node, f)
  | .concat items => Node.settleSeq? f items
  | .alternation branches => Node.settleChoice? f branches

/-- Settles the flags of expressions that follow each other. -/
def Node.settleSeq? (f : Flags) : List Tree → Option (Node × Flags)
  | [] => some (.empty, f)
  | t :: rest => do
    let (first, f) ← Node.settle? f t
    let (second, f) ← Node.settleSeq? f rest
    some (.seq first second, f)

/-- Settles the flags of branches; of none of them nothing can match. -/
def Node.settleChoice? (f : Flags) : List Tree → Option (Node × Flags)
  | [] => some (.char .none, f)
  | t :: rest => do
    let (left, f) ← Node.settle? f t
    let (right, f) ← Node.settleChoice? f rest
    some (.choice left right, f)

end

/-- The expression that a tree means on its own. -/
def Node.ofTree? (t : Tree) : Option Node := (Node.settle? {} t).map Prod.fst

end FormCheck.Pattern
